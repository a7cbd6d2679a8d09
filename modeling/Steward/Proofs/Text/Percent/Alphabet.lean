import Steward.Proofs.Text.Percent
import Steward.Proofs.Text.Utf8

/-! The alphabet of encoded texts. Whatever a text holds, its encoded form is made of a few
characters, and the text can be read off it. -/

namespace Steward.Text.Percent

def digits : List Char :=
  ['0', '1', '2', '3', '4', '5', '6', '7', '8', '9', 'A', 'B', 'C', 'D', 'E', 'F']

/-- A text of ASCII letters and digits, the four marks that stand for themselves everywhere, `extra`
marks, and escapes: a percent sign with two digits. -/
inductive IsEncoded (extra : List Char) : List Char → Prop
  | nil : IsEncoded extra []
  | letter {character : Char} {rest : List Char} (alphanumeric : character.isAlphanum = true)
      (encoded : IsEncoded extra rest) : IsEncoded extra (character :: rest)
  | mark {character : Char} {rest : List Char} (listed : character ∈ ['_', '.', '-', '~'] ++ extra)
      (encoded : IsEncoded extra rest) : IsEncoded extra (character :: rest)
  | escape {high low : Char} {rest : List Char} (isHigh : high ∈ digits) (isLow : low ∈ digits)
      (encoded : IsEncoded extra rest) : IsEncoded extra ('%' :: high :: low :: rest)

def read (encoded : List Char) : Except Utf8.Fault String := Utf8.decode (decode encoded)

variable {extra rest : List Char}

theorem digit_mem_digits {value : Nat} (small : value < 16) : digit value ∈ digits := by
  decide +revert

theorem IsEncoded.bytes (encoded : IsEncoded extra rest) (bytes : List UInt8) :
    IsEncoded extra (bytes.flatMap encodeByte ++ rest) := by
  induction bytes with
  | nil => exact encoded
  | cons byte bytes induction =>
      have bound := byte.toNat_lt
      rw [List.flatMap_cons, List.append_assoc]
      exact .escape (digit_mem_digits (by omega)) (digit_mem_digits (by omega)) induction

theorem IsEncoded.character (encoded : IsEncoded extra rest) (character : Char) :
    IsEncoded extra (encodeCharacter extra character ++ rest) := by
  rw [encodeCharacter]
  split
  · rename_i kept
    by_cases alphanumeric : character.isAlphanum = true
    · exact .letter alphanumeric encoded
    · refine .mark ?_ encoded
      simpa [isUnreserved, alphanumeric, or_assoc] using kept
  · exact encoded.bytes _

theorem encode_isEncoded (extra : List Char) (text : String) :
    IsEncoded extra (encode extra text).toList := by
  rw [encode, String.toList_ofList]
  induction text.toList with
  | nil => exact .nil
  | cons character rest induction =>
      rw [List.flatMap_cons]
      exact induction.character character

theorem read_encode (plain : '%' ∉ extra) (text : String) :
    read (encode extra text).toList = .ok text := by
  rw [read, decode_encode plain, Utf8.decode_encode]

end Steward.Text.Percent
