import Steward.Command
import Steward.Proofs.Text.Blank
import Steward.Proofs.Text.Variant
import Steward.Proofs.Wording

/-! The language of commands. A comment is a command if and only if it is a slash and the command's
name, in any case, between two runs of blanks. Whatever else is visible in a comment, it is then
none. -/

namespace Steward

namespace Text

variable {left right : Char} {word spelled : List Char}

theorem areVariants_iff_spells : areVariants word spelled = true ↔ Spells word spelled := by
  induction word generalizing spelled with
  | nil => cases spelled <;> simp [areVariants]
  | cons letter letters induction =>
      cases spelled with
      | nil => simp [areVariants]
      | cons character rest => simp [areVariants, isVariant_iff, induction]

/-- Case makes no letter a blank. -/
theorem IsSameLetter.isBlank_eq (same : IsSameLetter left right) :
    isBlank left = isBlank right := by
  have table : (letterForms.all fun forms => forms.all fun character => !isBlank character) =
      true := by
    decide +kernel
  have seen {forms : List Char} {character : Char} (listed : forms ∈ letterForms)
      (isForm : character ∈ forms) : isBlank character = false := by
    simpa using List.all_eq_true.mp (List.all_eq_true.mp table forms listed) character isForm
  cases same with
  | same => rfl
  | forms listed isLeft isRight => rw [seen listed isLeft, seen listed isRight]

theorem Spells.seen (spells : Spells word spelled)
    (seen : ∀ letter ∈ word, isBlank letter = false) :
    ∀ character ∈ spelled, isBlank character = false := by
  intro character among
  rcases spells.exists_letter among with ⟨letter, listed, same⟩
  rw [← same.isBlank_eq, seen letter listed]

/-- A slash has no other form. -/
theorem spells_slash_iff :
    Spells ('/' :: word) spelled ↔ ∃ rest, spelled = '/' :: rest ∧ Spells word rest := by
  have table : ∀ forms ∈ letterForms, '/' ∉ forms := by decide +kernel
  constructor
  · intro spells
    cases spells with
    | cons same spells =>
        cases same with
        | same => exact ⟨_, rfl, spells⟩
        | forms listed isSlash _ => exact absurd isSlash (table _ listed)
  · intro split
    rcases split with ⟨rest, rfl, spells⟩
    exact .cons (.same '/') spells

end Text

namespace Command

open Text

/-- A text is a command and nothing else: a slash and the command's name in any case, between
blanks. -/
def IsPhrase (command : Command) (text : List Char) : Prop :=
  ∃ before spelled after, text = before ++ '/' :: spelled ++ after ∧ AreBlank before ∧
    Spells command.name.toList spelled ∧ AreBlank after

variable {command : Command} {text spelled before added after : List Char}

theorem toList_word (command : Command) : command.word.toList = '/' :: command.name.toList := by
  rw [word, String.toList_append]
  rfl

theorem seen_name (command : Command) : ∀ letter ∈ command.name.toList, isBlank letter = false := by
  have seen : (command.name.toList.all fun letter => !isBlank letter) = true := by
    cases command
    decide +kernel
  simpa using seen

theorem seen_slash (spells : Spells command.name.toList spelled) :
    ∀ character ∈ '/' :: spelled, isBlank character = false :=
  List.forall_mem_cons.mpr ⟨by decide, spells.seen command.seen_name⟩

theorem areVariants_strip_iff :
    areVariants command.word.toList (strip text) = true ↔ IsPhrase command text := by
  rw [areVariants_iff_spells, toList_word, spells_slash_iff]
  constructor
  · intro found
    rcases found with ⟨spelled, core, spells⟩
    rcases exists_strip text with ⟨before, after, whole, blankBefore, blankAfter⟩
    exact ⟨before, spelled, after, core ▸ whole, blankBefore, spells, blankAfter⟩
  · intro phrase
    rcases phrase with ⟨before, spelled, after, rfl, blankBefore, spells, blankAfter⟩
    exact ⟨spelled, by rw [strip_append blankBefore blankAfter, strip_eq_self (seen_slash spells)],
      spells⟩

theorem ofComment?_eq_some_iff {comment : String} :
    ofComment? comment = some command ↔ IsPhrase command comment.toList := by
  cases command
  rw [← areVariants_strip_iff, ofComment?, all, List.find?_singleton, isGivenBy]
  split <;> simp_all

/-- Nothing is visible in a command but its slash and its name. -/
theorem IsPhrase.length_visible (phrase : IsPhrase command text) :
    (visible text).length = command.name.toList.length + 1 := by
  rcases phrase with ⟨before, spelled, after, rfl, blankBefore, spells, blankAfter⟩
  rw [visible_append, visible_append, visible_eq_nil blankBefore, visible_eq_nil blankAfter,
    visible_eq_self (seen_slash spells), List.append_nil, List.nil_append, List.length_cons,
    spells.length_eq]

theorem not_isPhrase_of_added (phrase : IsPhrase command (before ++ after))
    (seen : ∃ character ∈ added, isBlank character = false) :
    ¬IsPhrase command (before ++ added ++ after) := by
  intro longer
  rcases seen with ⟨character, among, seen⟩
  have short := phrase.length_visible
  have long := longer.length_visible
  have more := visible_length_pos among seen
  simp only [visible_append, List.length_append] at short long
  omega

theorem not_isPhrase_of_surrounded (spells : Spells command.name.toList spelled)
    (seen : ∃ character ∈ before ++ after, isBlank character = false) :
    ¬IsPhrase command (before ++ '/' :: spelled ++ after) := by
  intro phrase
  rcases seen with ⟨character, among, seen⟩
  have whole := phrase.length_visible
  have more := visible_length_pos among seen
  rw [visible_append, visible_append, visible_eq_self (seen_slash spells)] at whole
  simp only [visible_append, List.length_append, List.length_cons, ← spells.length_eq] at whole more
  omega

theorem isPhrase_append_iff (blankBefore : AreBlank before) (blankAfter : AreBlank after) :
    IsPhrase command (before ++ text ++ after) ↔ IsPhrase command text := by
  rw [← areVariants_strip_iff, ← areVariants_strip_iff, strip_append blankBefore blankAfter]

theorem isPhrase_strip_iff : IsPhrase command (strip text) ↔ IsPhrase command text := by
  rcases exists_strip text with ⟨before, after, whole, blankBefore, blankAfter⟩
  rw [← isPhrase_append_iff blankBefore blankAfter, ← whole]

/-- A replacement character is neither a blank nor a letter. -/
theorem IsPhrase.replacement_not_mem (phrase : IsPhrase command text) : '\ufffd' ∉ text := by
  have table : ∀ forms ∈ letterForms, '\ufffd' ∉ forms := by decide +kernel
  have seen : isBlank '\ufffd' = false := by decide +kernel
  rcases phrase with ⟨before, spelled, after, rfl, blankBefore, spells, blankAfter⟩
  intro among
  have place : '\ufffd' ∈ before ∨ '\ufffd' ∈ spelled ∨ '\ufffd' ∈ after := by
    simpa [or_assoc] using among
  rcases place with among | among | among
  · simp [blankBefore _ among] at seen
  · rcases spells.exists_letter among with ⟨letter, listed, same⟩
    cases same with
    | same =>
        cases command
        exact absurd listed (by decide)
    | forms listed _ isForm => exact table _ listed isForm
  · simp [blankAfter _ among] at seen

theorem IsPhrase.eq_coe {comment : Wording} (phrase : IsPhrase command comment.shown.toList) :
    comment = (comment.shown : Wording) :=
  Wording.eq_coe_of_not_mem phrase.replacement_not_mem

/-! ## Detection -/

section Detection

variable {comment : Wording} {station : Station} {session : Session}

/-- What is found in a comment. -/
theorem detect_text (comment : Wording) (station : Station) (session : Session) :
    (detect (.text comment) station session).1 = .ok (ofComment? comment.shown).toList := by
  rw [detect]
  cases ofComment? comment.shown <;> rfl

theorem detect_text_eq_assign_iff :
    (detect (.text comment) station session).1 = .ok [.assign] ↔
      IsPhrase .assign comment.shown.toList := by
  rw [detect_text, ← ofComment?_eq_some_iff]
  cases ofComment? comment.shown <;> simp

theorem detect_text_eq_nil_iff :
    (detect (.text comment) station session).1 = .ok [] ↔
      ¬IsPhrase .assign comment.shown.toList := by
  rw [detect_text, ← ofComment?_eq_some_iff]
  cases known : ofComment? comment.shown with
  | none => simp
  | some command =>
      cases command
      simp

/-- Comments that are the command alike are taken alike. -/
theorem detect_text_congr {first second : Wording} (station : Station) (session : Session)
    (alike : IsPhrase .assign first.shown.toList ↔ IsPhrase .assign second.shown.toList) :
    (detect (.text first) station session).1 = (detect (.text second) station session).1 := by
  by_cases phrase : IsPhrase .assign first.shown.toList
  · rw [detect_text_eq_assign_iff.mpr phrase, detect_text_eq_assign_iff.mpr (alike.mp phrase)]
  · rw [detect_text_eq_nil_iff.mpr phrase, detect_text_eq_nil_iff.mpr (mt alike.mpr phrase)]

/-- A comment asks for assignment exactly where it is a phrase of that command, and no other comment
is a command. Blanks around a comment do not matter, and with anything else that is visible it is no
command any more. -/
theorem detect_accepts_phrases (station : Station) (session : Session) :
    (∀ body, (detect body station session).1 = .ok [.assign] ↔
      ∃ comment : String, body = .text comment ∧ IsPhrase .assign comment.toList) ∧
    (∀ body, (detect body station session).1 ≠ .ok [.assign] →
      (detect body station session).1 = .ok []) ∧
    (∀ comment : Wording, (detect (.text comment.strip) station session).1 =
      (detect (.text comment) station session).1) ∧
    (∀ before comment after : Wording,
      AreBlank before.shown.toList → AreBlank after.shown.toList →
      (detect (.text (before ++ comment ++ after)) station session).1 =
        (detect (.text comment) station session).1) ∧
    (∀ (before after : Wording) spelled, Spells assign.name.toList spelled →
      (∃ character ∈ (before ++ after).shown.toList, isBlank character = false) →
      (detect (.text (before ++ String.ofList ('/' :: spelled) ++ after)) station session).1 =
        .ok []) ∧
    ∀ before added after : Wording,
      (detect (.text (before ++ after)) station session).1 = .ok [.assign] →
      (∃ character ∈ added.shown.toList, isBlank character = false) →
      (detect (.text (before ++ added ++ after)) station session).1 = .ok [] := by
  refine ⟨fun body => ?_, fun body other => ?_, fun comment => ?_, ?_, ?_, ?_⟩
  · cases body with
    | text comment =>
        rw [detect_text_eq_assign_iff]
        constructor
        · intro phrase
          exact ⟨comment.shown, congrArg Json.text phrase.eq_coe, phrase⟩
        · intro found
          rcases found with ⟨text, same, phrase⟩
          cases same
          exact phrase
    | _ => exact iff_of_false nofun (by simp)
  · cases body with
    | text comment => exact detect_text_eq_nil_iff.mpr (mt detect_text_eq_assign_iff.mpr other)
    | _ => rfl
  · exact detect_text_congr station session (by rw [Wording.toList_shown_strip, isPhrase_strip_iff])
  · intro before comment after blankBefore blankAfter
    refine detect_text_congr station session ?_
    simp only [Wording.shown_append, String.toList_append]
    exact isPhrase_append_iff blankBefore blankAfter
  · intro before after spelled spells seen
    simp only [detect_text_eq_nil_iff, Wording.shown_append, Wording.shown_coe,
      String.toList_append, String.toList_ofList] at seen ⊢
    exact not_isPhrase_of_surrounded spells seen
  · intro before added after asks seen
    simp only [detect_text_eq_assign_iff, detect_text_eq_nil_iff, Wording.shown_append,
      String.toList_append] at asks ⊢
    exact not_isPhrase_of_added asks seen

end Detection

/-- A long s and a dotted capital are letters of the command like any other. -/
example : ofComment? "\n/A\u017fs\u0130gn\u3000" = some .assign := by decide +kernel

end Command

end Steward
