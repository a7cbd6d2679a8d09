import Steward.Text.Percent
import Steward.Text.Utf8

/-! Percent-encoding loses nothing: the bytes of a text can be read off its encoded form. -/

namespace Steward.Text.Percent

/-! ## Reading -/

def digitValue (character : Char) : Nat :=
  if character.toNat < 58 then character.toNat - 48 else character.toNat - 55

def decode : List Char → List UInt8
  | '%' :: high :: low :: rest =>
      UInt8.ofNat (16 * digitValue high + digitValue low) :: decode rest
  | character :: rest => String.utf8EncodeChar character ++ decode rest
  | [] => []

example : decode (encode [] "a b").toList = [97, 32, 98] := by decide +kernel

/-! ## Round trip -/

theorem digitValue_digit {value : Nat} (small : value < 16) : digitValue (digit value) = value := by
  decide +revert

theorem decode_encodeByte (byte : UInt8) (rest : List Char) :
    decode (encodeByte byte ++ rest) = byte :: decode rest := by
  have bound := byte.toNat_lt
  have high : digitValue (digit (byte.toNat / 16)) = byte.toNat / 16 := digitValue_digit (by omega)
  have low : digitValue (digit (byte.toNat % 16)) = byte.toNat % 16 := digitValue_digit (by omega)
  have whole : 16 * (byte.toNat / 16) + byte.toNat % 16 = byte.toNat := by omega
  simp [encodeByte, decode, high, low, whole]

theorem decode_encodeBytes (bytes : List UInt8) (rest : List Char) :
    decode (bytes.flatMap encodeByte ++ rest) = bytes ++ decode rest := by
  induction bytes with
  | nil => rfl
  | cons byte bytes induction =>
      rw [List.flatMap_cons, List.append_assoc, decode_encodeByte, induction, List.cons_append]

/-- A character that stands for itself is not the mark of an encoded byte. -/
theorem decode_kept {character : Char} (other : character ≠ '%') (rest : List Char) :
    decode (character :: rest) = String.utf8EncodeChar character ++ decode rest := by
  rw [decode]
  intro high low tail mark
  exact absurd mark other

section

variable {extra : List Char}

theorem decode_encodeCharacter (plain : '%' ∉ extra) (character : Char) (rest : List Char) :
    decode (encodeCharacter extra character ++ rest) =
      String.utf8EncodeChar character ++ decode rest := by
  rw [encodeCharacter]
  split
  · rename_i kept
    have other : character ≠ '%' := by
      intro mark
      subst mark
      simp [isUnreserved, plain] at kept
    exact decode_kept other rest
  · exact decode_encodeBytes _ rest

theorem decode_encode (plain : '%' ∉ extra) (text : String) :
    decode (encode extra text).toList = Utf8.encode text := by
  rw [encode, String.toList_ofList, Utf8.encode]
  induction text.toList with
  | nil => rfl
  | cons character rest induction =>
      rw [List.flatMap_cons, List.flatMap_cons, decode_encodeCharacter plain, induction]

theorem isUnreserved_digit {value : Nat} (small : value < 16) :
    isUnreserved (digit value) = true := by
  decide +revert

/-- A reserved character that is not kept stands in no encoded text. -/
theorem not_mem_encode {character : Char} (reserved : isUnreserved character = false)
    (absent : character ∉ extra) (other : character ≠ '%') (text : String) :
    character ∉ (encode extra text).toList := by
  have bytes (byte : UInt8) : character ∉ encodeByte byte := by
    have bound := byte.toNat_lt
    have digits (value : Nat) (small : value < 16) : character ≠ digit value := by
      intro same
      rw [same, isUnreserved_digit small] at reserved
      cases reserved
    simp [encodeByte, other, digits (byte.toNat / 16) (by omega),
      digits (byte.toNat % 16) (by omega)]
  rw [encode, String.toList_ofList, List.mem_flatMap]
  intro found
  rcases found with ⟨origin, -, member⟩
  rw [encodeCharacter] at member
  split at member
  · rename_i kept
    rw [List.mem_singleton] at member
    subst member
    simp [reserved, absent] at kept
  · rcases List.mem_flatMap.mp member with ⟨byte, -, member⟩
    exact bytes byte member

end

theorem encode_injective {first second : String} (equal : encode [] first = encode [] second) :
    first = second := by
  have bytes : Utf8.encode first = Utf8.encode second := by
    rw [← decode_encode List.not_mem_nil, ← decode_encode List.not_mem_nil, equal]
  apply String.toByteArray_inj.mp
  rw [← String.utf8Encode_toList, ← String.utf8Encode_toList, List.utf8Encode, List.utf8Encode]
  exact congrArg _ bytes

end Steward.Text.Percent
