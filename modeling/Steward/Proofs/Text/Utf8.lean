import Steward.Text.Utf8

/-! UTF-8 loses nothing: the bytes of a text are decoded to the text itself. -/

namespace Steward.Text.Utf8

/-! ## First bytes

The first byte of a character tells how many bytes follow, and holds the highest bits. The bounds of
the second byte are narrower where these bits could belong to a shorter form, to half of a surrogate
pair or to no character at all. -/

variable {byte : UInt8} {position high : Nat}

theorem announced_two (position : Nat) (code : byte.toNat = 0xc0 + high) (least : 2 ≤ high)
    (greatest : high < 32) :
    announced byte position = some ⟨byte, position, 1, 0x80, 0xbf, high⟩ := by
  have inRange : (0xc2 ≤ 0xc0 + high && 0xc0 + high ≤ 0xdf) = true := by
    simp only [Bool.and_eq_true, decide_eq_true_eq]
    omega
  simp only [announced, code, inRange, if_true, Nat.add_sub_cancel_left]

theorem announced_three (position : Nat) (code : byte.toNat = 0xe0 + high) (greatest : high < 16) :
    ∃ least most, announced byte position = some ⟨byte, position, 2, least, most, high⟩ ∧
      ∀ next, 0x80 ≤ next → next ≤ 0xbf → (high = 0 → 0xa0 ≤ next) → (high = 13 → next ≤ 0x9f) →
        least ≤ next ∧ next ≤ most := by
  have above : (0xc2 ≤ 0xe0 + high && 0xe0 + high ≤ 0xdf) = false := by
    simp only [Bool.and_eq_false_iff, decide_eq_false_iff_not]
    omega
  have inRange : high ≠ 0 → (0xe1 ≤ 0xe0 + high && 0xe0 + high ≤ 0xef) = true := by
    intro positive
    simp only [Bool.and_eq_true, decide_eq_true_eq]
    omega
  by_cases lowest : high = 0
  · subst lowest
    refine ⟨0xa0, 0xbf, by simp [announced, code], fun next _ most least _ => ⟨least rfl, most⟩⟩
  · by_cases paired : high = 13
    · subst paired
      refine ⟨0x80, 0x9f, by simp [announced, code], fun next least _ _ most => ⟨least, most rfl⟩⟩
    · refine ⟨0x80, 0xbf, ?_, fun next least most _ _ => ⟨least, most⟩⟩
      simp only [announced, code, above, inRange lowest, Nat.add_sub_cancel_left,
        Bool.false_eq_true, if_false, if_true, show 0xe0 + high ≠ 0xe0 by omega,
        show 0xe0 + high ≠ 0xed by omega]

theorem announced_four (position : Nat) (code : byte.toNat = 0xf0 + high) (greatest : high ≤ 4) :
    ∃ least most, announced byte position = some ⟨byte, position, 3, least, most, high⟩ ∧
      ∀ next, 0x80 ≤ next → next ≤ 0xbf → (high = 0 → 0x90 ≤ next) → (high = 4 → next ≤ 0x8f) →
        least ≤ next ∧ next ≤ most := by
  have high_cases : high = 0 ∨ high = 1 ∨ high = 2 ∨ high = 3 ∨ high = 4 := by omega
  rcases high_cases with rfl | rfl | rfl | rfl | rfl
  · exact ⟨0x90, 0xbf, by simp [announced, code], fun next _ most least _ => ⟨least rfl, most⟩⟩
  · exact ⟨0x80, 0xbf, by simp [announced, code], fun next least most _ _ => ⟨least, most⟩⟩
  · exact ⟨0x80, 0xbf, by simp [announced, code], fun next least most _ _ => ⟨least, most⟩⟩
  · exact ⟨0x80, 0xbf, by simp [announced, code], fun next least most _ _ => ⟨least, most⟩⟩
  · exact ⟨0x80, 0x8f, by simp [announced, code], fun next least _ _ most => ⟨least, most rfl⟩⟩

/-! ## Steps -/

def continuation (bits : Nat) : UInt8 := UInt8.ofNat (bits % 64 + 128)

theorem toNat_continuation (bits : Nat) : (continuation bits).toNat = bits % 64 + 128 :=
  UInt8.toNat_ofNat_of_lt' (by simp [UInt8.size]; omega)

theorem continuation_bounds (bits : Nat) :
    0x80 ≤ (continuation bits).toNat ∧ (continuation bits).toNat ≤ 0xbf := by
  rw [toNat_continuation]
  omega

section

variable {decoded : List Char} {rest : List UInt8} {pending : Pending}
  {first owed least most bits : Nat}

theorem decodeFrom_single (single : byte.toNat < 0x80) :
    decodeFrom decoded position none (byte :: rest) =
      decodeFrom (Char.ofNat byte.toNat :: decoded) (position + 1) none rest := by
  rw [decodeFrom, if_pos single]

theorem decodeFrom_first (multiple : 0x80 ≤ byte.toNat)
    (begins : announced byte position = some pending) :
    decodeFrom decoded position none (byte :: rest) =
      decodeFrom decoded (position + 1) (some pending) rest := by
  rw [decodeFrom, if_neg (Nat.not_lt.mpr multiple), begins]

theorem decodeFrom_next
    (bounded : least ≤ (continuation bits).toNat ∧ (continuation bits).toNat ≤ most) :
    decodeFrom decoded position (some ⟨byte, first, owed + 2, least, most, high⟩)
        (continuation bits :: rest) =
      decodeFrom decoded (position + 1)
        (some ⟨byte, first, owed + 1, 0x80, 0xbf, high * 64 + bits % 64⟩) rest := by
  rw [decodeFrom, if_pos (by simp [bounded]), toNat_continuation, Nat.add_sub_cancel]
  exact if_neg (by simp)

theorem decodeFrom_last
    (bounded : least ≤ (continuation bits).toNat ∧ (continuation bits).toNat ≤ most) :
    decodeFrom decoded position (some ⟨byte, first, 1, least, most, high⟩)
        (continuation bits :: rest) =
      decodeFrom (Char.ofNat (high * 64 + bits % 64) :: decoded) (position + 1) none rest := by
  rw [decodeFrom, if_pos (by simp [bounded]), toNat_continuation, Nat.add_sub_cancel]
  rfl

end

/-! ## Characters -/

theorem decodeFrom_encodeChar (character : Char) (decoded : List Char) (position : Nat)
    (rest : List UInt8) :
    ∃ after, decodeFrom decoded position none (String.utf8EncodeChar character ++ rest) =
      decodeFrom (character :: decoded) after none rest := by
  have valid : character.val.toNat < 0xd800 ∨
      0xdfff < character.val.toNat ∧ character.val.toNat < 0x110000 := character.valid
  have code (bits : Nat) (whole : bits = character.val.toNat) : Char.ofNat bits = character := by
    rw [whole]
    exact Char.ofNat_toNat character
  rw [String.utf8EncodeChar]
  generalize character.val.toNat = value at valid code
  split
  · rename_i one
    have byte : (UInt8.ofNat value).toNat = value :=
      UInt8.toNat_ofNat_of_lt' (by simp [UInt8.size]; omega)
    refine ⟨position + 1, ?_⟩
    rw [List.singleton_append, decodeFrom_single (by omega), byte, code value rfl]
  · split
    · rename_i _ two
      have first : (UInt8.ofNat (value / 64 % 32 + 192)).toNat = 0xc0 + value / 64 := by
        rw [UInt8.toNat_ofNat_of_lt' (by simp [UInt8.size]; omega)]
        omega
      have begins := announced_two position first (by omega) (by omega)
      refine ⟨position + 1 + 1, ?_⟩
      rw [← continuation, List.cons_append, decodeFrom_first (by omega) begins,
        List.singleton_append, decodeFrom_last (continuation_bounds value), code _ (by omega)]
    · split
      · rename_i _ _ three
        have first : (UInt8.ofNat (value / 4096 % 16 + 224)).toNat = 0xe0 + value / 4096 := by
          rw [UInt8.toNat_ofNat_of_lt' (by simp [UInt8.size]; omega)]
          omega
        rcases announced_three position first (by omega) with ⟨least, most, begins, bounds⟩
        have second := toNat_continuation (value / 64)
        have bounded := bounds _ (continuation_bounds (value / 64)).1
          (continuation_bounds (value / 64)).2 (by omega) (by omega)
        refine ⟨position + 1 + 1 + 1, ?_⟩
        rw [← continuation, ← continuation, List.cons_append, decodeFrom_first (by omega) begins,
          List.cons_append, decodeFrom_next bounded, List.singleton_append,
          decodeFrom_last (continuation_bounds value), code _ (by omega)]
      · rename_i _ _ four
        have first : (UInt8.ofNat (value / 262144 % 8 + 240)).toNat = 0xf0 + value / 262144 := by
          rw [UInt8.toNat_ofNat_of_lt' (by simp [UInt8.size]; omega)]
          omega
        rcases announced_four position first (by omega) with ⟨least, most, begins, bounds⟩
        have second := toNat_continuation (value / 4096)
        have bounded := bounds _ (continuation_bounds (value / 4096)).1
          (continuation_bounds (value / 4096)).2 (by omega) (by omega)
        refine ⟨position + 1 + 1 + 1 + 1, ?_⟩
        rw [← continuation, ← continuation, ← continuation, List.cons_append,
          decodeFrom_first (by omega) begins, List.cons_append,
          decodeFrom_next bounded, List.cons_append,
          decodeFrom_next (continuation_bounds (value / 64)), List.singleton_append,
          decodeFrom_last (continuation_bounds value), code _ (by omega)]

theorem decodeFrom_encode (characters decoded : List Char) (position : Nat) :
    decodeFrom decoded position none (characters.flatMap String.utf8EncodeChar) =
      .ok (decoded.reverse ++ characters) := by
  induction characters generalizing decoded position with
  | nil => simp [decodeFrom]
  | cons character rest induction =>
      rw [List.flatMap_cons]
      rcases decodeFrom_encodeChar character decoded position
        (rest.flatMap String.utf8EncodeChar) with ⟨after, decodes⟩
      rw [decodes, induction, List.reverse_cons, List.append_assoc, List.singleton_append]

theorem decode_encode (text : String) : decode (encode text) = .ok text := by
  rw [decode, encode, decodeFrom_encode]
  simp [Except.map]

end Steward.Text.Utf8
