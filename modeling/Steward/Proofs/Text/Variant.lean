import Mathlib.Data.List.Forall2
import Steward.Text.Variant

/-! Letters up to case. Two characters count as one when case does not matter if they are equal, or
two forms of one letter; the forms of every letter are listed below. -/

namespace Steward.Text

def letterForms : List (List Char) :=
  [['a', 'A'], ['b', 'B'], ['c', 'C'], ['d', 'D'], ['e', 'E'], ['f', 'F'], ['g', 'G'], ['h', 'H'],
   ['i', 'I', '\u0131', '\u0130'], ['j', 'J'], ['k', 'K', '\u212a'], ['l', 'L'], ['m', 'M'],
   ['n', 'N'], ['o', 'O'], ['p', 'P'], ['q', 'Q'], ['r', 'R'], ['s', 'S', '\u017f'], ['t', 'T'],
   ['u', 'U'], ['v', 'V'], ['w', 'W'], ['x', 'X'], ['y', 'Y'], ['z', 'Z']]

inductive IsSameLetter : Char → Char → Prop
  | same (character : Char) : IsSameLetter character character
  | forms {forms : List Char} {left right : Char} (listed : forms ∈ letterForms)
      (isLeft : left ∈ forms) (isRight : right ∈ forms) : IsSameLetter left right

/-! ## Plain letters -/

variable {left right character : Char} {forms others : List Char}

theorem head?_eq_plainLetter (listed : forms ∈ letterForms) (isForm : character ∈ forms) :
    forms.head? = some (plainLetter character) := by
  have table : (letterForms.all fun forms => forms.all fun character =>
      forms.head? == some (plainLetter character)) = true := by decide +kernel
  have row := List.all_eq_true.mp table forms listed
  exact beq_iff_eq.mp (List.all_eq_true.mp row character isForm)

/-- No two letters have a form in common. -/
theorem forms_eq_of_head? (listed : forms ∈ letterForms) (listedToo : others ∈ letterForms)
    (equal : forms.head? = others.head?) : forms = others := by
  have table : ∀ forms ∈ letterForms, ∀ others ∈ letterForms,
      forms.head? = others.head? → forms = others := by decide +kernel
  exact table forms listed others listedToo equal

theorem exists_forms_of_capital (capital : 'A' ≤ character ∧ character ≤ 'Z') :
    ∃ forms ∈ letterForms, character ∈ forms := by
  have table : ∀ offset < 26, ∃ forms ∈ letterForms, Char.ofNat (65 + offset) ∈ forms := by
    decide +kernel
  simp only [Char.le_def, UInt32.le_iff_toNat_le] at capital
  have code : character.toNat = character.val.toNat := rfl
  have first : 'A'.val.toNat = 65 := rfl
  have last : 'Z'.val.toNat = 90 := rfl
  have found := table (character.toNat - 65) (by omega)
  rwa [show 65 + (character.toNat - 65) = character.toNat by omega, Char.ofNat_toNat] at found

/-- A character that is not listed stands for itself. -/
theorem plainLetter_eq_self (unlisted : ∀ forms ∈ letterForms, character ∉ forms) :
    plainLetter character = character := by
  have absent (forms : List Char) (listed : forms ∈ letterForms) (other : Char)
      (isForm : other ∈ forms) : character ≠ other := by
    intro equal
    exact unlisted forms listed (equal ▸ isForm)
  have small : ¬('A' ≤ character ∧ character ≤ 'Z') := by
    intro capital
    rcases exists_forms_of_capital capital with ⟨forms, listed, isForm⟩
    exact unlisted forms listed isForm
  have notLongS := absent ['s', 'S', '\u017f'] (by decide) '\u017f' (by decide)
  have notKelvin := absent ['k', 'K', '\u212a'] (by decide) '\u212a' (by decide)
  have notDotless := absent ['i', 'I', '\u0131', '\u0130'] (by decide) '\u0131' (by decide)
  have notDotted := absent ['i', 'I', '\u0131', '\u0130'] (by decide) '\u0130' (by decide)
  simp [plainLetter, small, notLongS, notKelvin, notDotless, notDotted]

/-! ## Variants -/

namespace IsSameLetter

theorem symm (same : IsSameLetter left right) : IsSameLetter right left := by
  cases same with
  | same => exact .same _
  | forms listed isLeft isRight => exact .forms listed isRight isLeft

theorem trans (same : IsSameLetter left character) (further : IsSameLetter character right) :
    IsSameLetter left right := by
  cases same with
  | same => exact further
  | forms listed isLeft isForm =>
      cases further with
      | same => exact .forms listed isLeft isForm
      | forms listedToo isFormToo isRight =>
          have equal := forms_eq_of_head? listed listedToo
            ((head?_eq_plainLetter listed isForm).trans
              (head?_eq_plainLetter listedToo isFormToo).symm)
          exact .forms listed isLeft (equal ▸ isRight)

theorem plainLetter_eq (same : IsSameLetter left right) : plainLetter left = plainLetter right := by
  cases same with
  | same => rfl
  | forms listed isLeft isRight =>
      exact Option.some.inj
        ((head?_eq_plainLetter listed isLeft).symm.trans (head?_eq_plainLetter listed isRight))

end IsSameLetter

theorem isSameLetter_plainLetter (character : Char) :
    IsSameLetter character (plainLetter character) := by
  by_cases listed : ∃ forms ∈ letterForms, character ∈ forms
  · rcases listed with ⟨forms, listed, isForm⟩
    exact .forms listed isForm (List.mem_of_head? (head?_eq_plainLetter listed isForm))
  · rw [plainLetter_eq_self fun forms listedIn isForm => listed ⟨forms, listedIn, isForm⟩]
    exact .same character

theorem isVariant_iff : isVariant left right = true ↔ IsSameLetter left right := by
  rw [isVariant, beq_iff_eq]
  constructor
  · intro equal
    have plain := isSameLetter_plainLetter left
    rw [equal] at plain
    exact plain.trans (isSameLetter_plainLetter right).symm
  · exact IsSameLetter.plainLetter_eq

/-! ## Words -/

abbrev Spells (word spelled : List Char) : Prop := List.Forall₂ IsSameLetter word spelled

theorem Spells.exists_letter {word spelled : List Char} (spells : Spells word spelled)
    (among : character ∈ spelled) : ∃ letter ∈ word, IsSameLetter letter character := by
  induction spells with
  | nil => cases among
  | cons same spells induction =>
      rcases List.mem_cons.mp among with rfl | later
      · exact ⟨_, List.mem_cons_self, same⟩
      · rcases induction later with ⟨letter, listed, same⟩
        exact ⟨letter, List.mem_cons_of_mem _ listed, same⟩

/-- A text is read as far as it spells a word. -/
theorem afterWord_eq_some_iff {word text rest : List Char} :
    afterWord word text = some rest ↔ ∃ spelled, Spells word spelled ∧ text = spelled ++ rest := by
  induction word generalizing text with
  | nil =>
      simp only [afterWord, Option.some.injEq]
      constructor
      · intro equal
        exact ⟨[], .nil, equal⟩
      · intro split
        rcases split with ⟨_, spells, rfl⟩
        cases spells
        rfl
  | cons letter letters induction =>
      constructor
      · intro found
        cases text with
        | nil => cases found
        | cons character text =>
            rw [afterWord] at found
            split at found
            · rename_i variant
              rcases induction.mp found with ⟨spelled, spells, rfl⟩
              exact ⟨character :: spelled, .cons (isVariant_iff.mp variant) spells, rfl⟩
            · cases found
      · intro split
        rcases split with ⟨_, spells, rfl⟩
        cases spells with
        | cons same spells =>
            rw [List.cons_append, afterWord, if_pos (isVariant_iff.mpr same)]
            exact induction.mpr ⟨_, spells, rfl⟩

end Steward.Text
