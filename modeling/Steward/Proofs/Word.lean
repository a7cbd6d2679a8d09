import Steward.Proofs.Json

/-! Words that can stand in a search: letters and digits of the Latin alphabet without accents, and
a few marks. A word has at least one character, and none of its characters is blank. -/

namespace Steward

def IsWordCharacter (character : Char) : Prop :=
  ('A' ≤ character ∧ character ≤ 'Z') ∨ ('a' ≤ character ∧ character ≤ 'z') ∨
    ('0' ≤ character ∧ character ≤ '9') ∨ character ∈ ['.', '_', '/', '-']

structure IsWord (text : String) : Prop where
  nonempty : text ≠ ""
  plain : ∀ character ∈ text.toList, IsWordCharacter character

namespace IsWordCharacter

variable {character : Char}

theorem iff_isSearchCharacter :
    IsWordCharacter character ↔ Json.isSearchCharacter character = true := by
  have alphanumeric : character.isAlphanum =
      (decide ('A'.val ≤ character.val ∧ character.val ≤ 'Z'.val) ||
        decide ('a'.val ≤ character.val) && decide (character.val ≤ 'z'.val) ||
        decide ('0'.val ≤ character.val) && decide (character.val ≤ '9'.val)) := rfl
  simp only [IsWordCharacter, Json.isSearchCharacter, alphanumeric, Char.le_def, Bool.or_eq_true,
    Bool.and_eq_true, decide_eq_true_eq, List.mem_cons, List.not_mem_nil, or_false, or_assoc]

/-- The code points of words lie between the blanks of ASCII and all others. -/
theorem bounds (ofWord : IsWordCharacter character) :
    0x20 < character.toNat ∧ character.toNat < 0x80 := by
  simp only [IsWordCharacter, Char.le_def, UInt32.le_iff_toNat_le, List.mem_cons, List.not_mem_nil,
    or_false] at ofWord
  have code : character.toNat = character.val.toNat := rfl
  rcases ofWord with upper | lower | digit | rfl | rfl | rfl | rfl
  · have first : 'A'.val.toNat = 65 := rfl
    have last : 'Z'.val.toNat = 90 := rfl
    omega
  · have first : 'a'.val.toNat = 97 := rfl
    have last : 'z'.val.toNat = 122 := rfl
    omega
  · have first : '0'.val.toNat = 48 := rfl
    have last : '9'.val.toNat = 57 := rfl
    omega
  all_goals decide

theorem isBlank_eq_false (ofWord : IsWordCharacter character) : Text.isBlank character = false := by
  have bounds := ofWord.bounds
  simp only [Text.isBlank, Text.blanks, Spans.contains, List.any_cons, List.any_nil, Bool.or_false,
    Bool.or_eq_false_iff, Bool.and_eq_false_iff, decide_eq_false_iff_not]
  omega

/-- Nothing in a word ends a word of a query, or begins a quotation. -/
theorem plain (ofWord : IsWordCharacter character) : character ≠ '"' ∧ character ≠ ' ' := by
  rw [iff_isSearchCharacter] at ofWord
  constructor
  · intro quote
    exact absurd (quote ▸ ofWord) (by decide)
  · intro blank
    exact absurd (blank ▸ ofWord) (by decide)

end IsWordCharacter

namespace IsWord

variable {text : String}

theorem iff_isSearchWord : IsWord text ↔ (Json.text text).isSearchWord = true := by
  simp only [Json.isSearchWord, Bool.and_eq_true, decide_eq_true_eq, List.all_eq_true,
    ← IsWordCharacter.iff_isSearchCharacter]
  exact ⟨fun word => ⟨word.nonempty, word.plain⟩, fun word => ⟨word.1, word.2⟩⟩

theorem not_mem (word : IsWord text) {character : Char}
    (other : Json.isSearchCharacter character = false) : character ∉ text.toList := by
  intro member
  have ofWord := IsWordCharacter.iff_isSearchCharacter.mp (word.plain character member)
  cases ofWord.symm.trans other

/-- A word is not blank: already its first character is not. -/
theorem spoken (word : IsWord text) : Text.isAllBlank text = false := by
  cases characters : text.toList with
  | nil => exact absurd (String.toList_inj.mp characters) word.nonempty
  | cons first rest =>
      have plain := word.plain first (by rw [characters]; exact List.mem_cons_self)
      simp [Text.isAllBlank, characters, plain.isBlank_eq_false]

end IsWord

/-- Among JSON values the words are texts. -/
theorem Json.isSearchWord_iff {value : Json} :
    value.isSearchWord = true ↔ ∃ word : String, value = .text word ∧ IsWord word := by
  cases value with
  | text content =>
      constructor
      · intro safe
        have plain := congrArg text (eq_shown_of_isSearchWord safe)
        exact ⟨content.shown, plain, IsWord.iff_isSearchWord.mpr (plain ▸ safe)⟩
      · rintro ⟨word, same, isWord⟩
        exact same ▸ IsWord.iff_isSearchWord.mp isWord
  | _ => simp [isSearchWord]

end Steward
