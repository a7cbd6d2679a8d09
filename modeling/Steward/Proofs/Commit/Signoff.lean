import Steward.Commit.Signoff
import Steward.Proofs.Text.Lines
import Steward.Proofs.Text.Variant

/-! The language of sign-offs. A message has a sign-off if and only if it can be cut into the parts
of one; how it is cut is left open, and the search finds a cut wherever there is one. -/

namespace Steward.Signoff

/-! ## Parts -/

/-- Blanks between two parts of a sign-off, at least one. They may go over the ends of lines. -/
structure IsGap (gap : List Char) : Prop where
  nonempty : gap ≠ []
  blank : ∀ character ∈ gap, Text.isBlank character = true

structure IsPart (part : List Char) : Prop where
  nonempty : part ≠ []
  onLine : '\n' ∉ part

/-- A sign-off in a text, with what stands before and after it. -/
structure Occurrence (text : List Char) where
  before : List Char
  word : List Char
  gap : List Char
  name : List Char
  space : List Char
  address : List Char
  after : List Char
  whole : text = before ++ word ++ gap ++ name ++ space ++ '<' :: address ++ '>' :: after
  begins : Text.EndsPiece '\n' before
  spells : Text.Spells key word
  apart : IsGap gap
  named : IsPart name
  spaced : IsGap space
  addressed : IsPart address

theorem isGap_cons_iff {character : Char} {blanks : List Char} :
    IsGap (character :: blanks) ↔
      Text.isBlank character = true ∧ ∀ other ∈ blanks, Text.isBlank other = true := by
  constructor
  · intro gap
    exact List.forall_mem_cons.mp gap.blank
  · intro blank
    exact ⟨List.cons_ne_nil _ _, List.forall_mem_cons.mpr blank⟩

theorem isPart_cons_iff {character : Char} {line : List Char} :
    IsPart (character :: line) ↔ character ≠ '\n' ∧ '\n' ∉ line := by
  constructor
  · intro part
    exact ⟨fun equal => part.onLine (equal ▸ List.mem_cons_self),
      fun later => part.onLine (List.mem_cons_of_mem _ later)⟩
  · intro onLine
    exact ⟨List.cons_ne_nil _ _, List.not_mem_cons_of_ne_of_not_mem onLine.1.symm onLine.2⟩

/-! ## Loops

The loops of the search pass over characters of one class until they find what comes next. They give
up nowhere: what comes next may be found at each place up to which all characters are of the
class. -/

theorem loop_iff {loop : List Char → Bool} (skips : Char → Prop) (found : List Char → Prop)
    (ends : loop [] = true ↔ found [])
    (step : ∀ character rest,
      loop (character :: rest) = true ↔
        found (character :: rest) ∨ skips character ∧ loop rest = true)
    (text : List Char) :
    loop text = true ↔
      ∃ skipped rest, text = skipped ++ rest ∧ (∀ character ∈ skipped, skips character) ∧
        found rest := by
  constructor
  · intro reached
    induction text with
    | nil => exact ⟨[], [], rfl, nofun, ends.mp reached⟩
    | cons character text induction =>
        rcases (step character text).mp reached with here | ⟨skip, later⟩
        · exact ⟨[], character :: text, rfl, nofun, here⟩
        · rcases induction later with ⟨skipped, rest, rfl, skips, there⟩
          exact ⟨character :: skipped, rest, rfl, List.forall_mem_cons.mpr ⟨skip, skips⟩, there⟩
  · intro split
    rcases split with ⟨skipped, rest, rfl, skips, there⟩
    induction skipped with
    | nil =>
        cases rest with
        | nil => exact ends.mpr there
        | cons character rest => exact (step character rest).mpr (.inl there)
    | cons character skipped induction =>
        rcases List.forall_mem_cons.mp skips with ⟨skip, skips⟩
        exact (step character _).mpr (.inr ⟨skip, induction skips⟩)

variable {text : List Char}

/-! ## Address -/

theorem closes_iff :
    closes text = true ↔ ∃ line after, text = line ++ '>' :: after ∧ '\n' ∉ line := by
  rw [loop_iff (· ≠ '\n') (fun rest => ∃ after, rest = '>' :: after)
    (by simp [closes]) (by simp [closes])]
  constructor
  · intro split
    rcases split with ⟨line, _, rfl, onLine, after, rfl⟩
    exact ⟨line, after, rfl, List.forall_mem_ne'.mp onLine⟩
  · intro split
    rcases split with ⟨line, after, rfl, onLine⟩
    exact ⟨line, _, rfl, List.forall_mem_ne'.mpr onLine, after, rfl⟩

theorem address_iff :
    address text = true ↔ ∃ found after, text = found ++ '>' :: after ∧ IsPart found := by
  constructor
  · intro starts
    cases text with
    | nil => cases starts
    | cons character rest =>
        simp only [address, Bool.and_eq_true, bne_iff_ne] at starts
        rcases closes_iff.mp starts.2 with ⟨line, after, rfl, onLine⟩
        exact ⟨character :: line, after, rfl, isPart_cons_iff.mpr ⟨starts.1, onLine⟩⟩
  · intro split
    rcases split with ⟨found, after, rfl, part⟩
    cases found with
    | nil => exact absurd rfl part.nonempty
    | cons character line =>
        rcases isPart_cons_iff.mp part with ⟨inside, onLine⟩
        simp only [List.cons_append, address, Bool.and_eq_true, bne_iff_ne]
        exact ⟨inside, closes_iff.mpr ⟨line, after, rfl, onLine⟩⟩

theorem blanksAddress_iff :
    blanksAddress text = true ↔
      ∃ blanks rest, text = blanks ++ '<' :: rest ∧
        (∀ character ∈ blanks, Text.isBlank character = true) ∧ address rest = true := by
  rw [loop_iff (Text.isBlank · = true)
    (fun rest => ∃ inside, rest = '<' :: inside ∧ address inside = true)
    (by simp [blanksAddress]) (by simp [blanksAddress])]
  constructor
  · intro split
    rcases split with ⟨blanks, _, rfl, blank, rest, rfl, addressed⟩
    exact ⟨blanks, rest, rfl, blank, addressed⟩
  · intro split
    rcases split with ⟨blanks, rest, rfl, blank, addressed⟩
    exact ⟨blanks, _, rfl, blank, rest, rfl, addressed⟩

/-! ## Name -/

theorem restOfName_iff :
    restOfName text = true ↔
      ∃ line space rest, text = line ++ space ++ '<' :: rest ∧ '\n' ∉ line ∧ IsGap space ∧
        address rest = true := by
  rw [loop_iff (· ≠ '\n')
    (fun rest => ∃ blank further, rest = blank :: further ∧ Text.isBlank blank = true ∧
      blanksAddress further = true)
    (by simp [restOfName]) (by simp [restOfName])]
  constructor
  · intro split
    rcases split with ⟨line, _, rfl, onLine, blank, _, rfl, isBlank, further⟩
    rcases blanksAddress_iff.mp further with ⟨blanks, rest, rfl, blanksToo, addressed⟩
    exact ⟨line, blank :: blanks, rest, by simp, List.forall_mem_ne'.mp onLine,
      isGap_cons_iff.mpr ⟨isBlank, blanksToo⟩, addressed⟩
  · intro split
    rcases split with ⟨line, space, rest, rfl, onLine, spaced, addressed⟩
    cases space with
    | nil => exact absurd rfl spaced.nonempty
    | cons blank blanks =>
        rcases isGap_cons_iff.mp spaced with ⟨isBlank, blanksToo⟩
        exact ⟨line, blank :: (blanks ++ '<' :: rest), by simp, List.forall_mem_ne'.mpr onLine,
          blank, _, rfl, isBlank, blanksAddress_iff.mpr ⟨blanks, rest, rfl, blanksToo, addressed⟩⟩

theorem name_iff :
    name text = true ↔
      ∃ found space rest, text = found ++ space ++ '<' :: rest ∧ IsPart found ∧ IsGap space ∧
        address rest = true := by
  constructor
  · intro starts
    cases text with
    | nil => cases starts
    | cons character rest =>
        simp only [name, Bool.and_eq_true, bne_iff_ne] at starts
        rcases restOfName_iff.mp starts.2 with ⟨line, space, rest, rfl, onLine, spaced, addressed⟩
        exact ⟨character :: line, space, rest, rfl, isPart_cons_iff.mpr ⟨starts.1, onLine⟩, spaced,
          addressed⟩
  · intro split
    rcases split with ⟨found, space, rest, rfl, part, spaced, addressed⟩
    cases found with
    | nil => exact absurd rfl part.nonempty
    | cons character line =>
        rcases isPart_cons_iff.mp part with ⟨inside, onLine⟩
        simp only [List.cons_append, name, Bool.and_eq_true, bne_iff_ne]
        exact ⟨inside, restOfName_iff.mpr ⟨line, space, rest, rfl, onLine, spaced, addressed⟩⟩

theorem signer_iff :
    signer text = true ↔ ∃ gap rest, text = gap ++ rest ∧ IsGap gap ∧ name rest = true := by
  have blanksName_iff (text : List Char) :
      blanksName text = true ↔
        ∃ blanks rest, text = blanks ++ rest ∧
          (∀ character ∈ blanks, Text.isBlank character = true) ∧ name rest = true :=
    loop_iff _ _ (by simp [blanksName, name]) (by simp [blanksName]) text
  constructor
  · intro starts
    cases text with
    | nil => cases starts
    | cons character rest =>
        simp only [signer, Bool.and_eq_true] at starts
        rcases (blanksName_iff rest).mp starts.2 with ⟨blanks, rest, rfl, blank, named⟩
        exact ⟨character :: blanks, rest, rfl, isGap_cons_iff.mpr ⟨starts.1, blank⟩, named⟩
  · intro split
    rcases split with ⟨gap, rest, rfl, apart, named⟩
    cases gap with
    | nil => exact absurd rfl apart.nonempty
    | cons character blanks =>
        rcases isGap_cons_iff.mp apart with ⟨isBlank, blank⟩
        simp only [List.cons_append, signer, Bool.and_eq_true]
        exact ⟨isBlank, (blanksName_iff _).mpr ⟨blanks, rest, rfl, blank, named⟩⟩

/-! ## Messages -/

theorem starts_iff :
    starts text = true ↔
      ∃ word rest, text = word ++ rest ∧ Text.Spells key word ∧ signer rest = true := by
  unfold starts
  constructor
  · intro found
    split at found
    · rename_i rest read
      rcases Text.afterWord_eq_some_iff.mp read with ⟨word, spells, rfl⟩
      exact ⟨word, rest, rfl, spells, found⟩
    · cases found
  · intro split
    rcases split with ⟨word, rest, rfl, spells, signed⟩
    rw [Text.afterWord_eq_some_iff.mpr ⟨word, spells, rfl⟩]
    exact signed

theorem startsLaterLine_iff :
    startsLaterLine text = true ↔
      ∃ before rest, text = before ++ '\n' :: rest ∧ starts rest = true := by
  rw [loop_iff (fun _ => True)
    (fun rest => ∃ line, rest = '\n' :: line ∧ starts line = true)
    (by simp [startsLaterLine]) (by simp [startsLaterLine])]
  constructor
  · intro split
    rcases split with ⟨before, _, rfl, -, rest, rfl, signed⟩
    exact ⟨before, rest, rfl, signed⟩
  · intro split
    rcases split with ⟨before, rest, rfl, signed⟩
    exact ⟨before, _, rfl, fun _ _ => trivial, rest, rfl, signed⟩

theorem isIn_iff_starts :
    isIn text = true ↔
      ∃ before rest, text = before ++ rest ∧ Text.EndsPiece '\n' before ∧ starts rest = true := by
  rw [isIn, Bool.or_eq_true, startsLaterLine_iff]
  constructor
  · intro found
    rcases found with first | ⟨before, rest, rfl, signed⟩
    · exact ⟨[], text, rfl, .inl rfl, first⟩
    · exact ⟨before ++ ['\n'], rest, by simp, .inr (by simp), signed⟩
  · intro split
    rcases split with ⟨before, rest, rfl, ends, signed⟩
    rcases ends.eq with rfl | ⟨earlier, rfl⟩
    · exact .inl signed
    · exact .inr ⟨earlier, rest, by simp, signed⟩

theorem isIn_iff : isIn text = true ↔ Nonempty (Occurrence text) := by
  rw [isIn_iff_starts]
  constructor
  · intro split
    rcases split with ⟨before, _, rfl, begins, signed⟩
    rcases starts_iff.mp signed with ⟨word, _, rfl, spells, signed⟩
    rcases signer_iff.mp signed with ⟨gap, _, rfl, apart, signed⟩
    rcases name_iff.mp signed with ⟨name, space, _, rfl, named, spaced, signed⟩
    rcases address_iff.mp signed with ⟨address, after, rfl, addressed⟩
    exact ⟨{
      before, word, gap, name, space, address, after
      whole := by simp
      begins, spells, apart, named, spaced, addressed }⟩
  · intro found
    rcases found with ⟨found⟩
    have addressed := address_iff.mpr ⟨found.address, found.after, rfl, found.addressed⟩
    have named :=
      name_iff.mpr ⟨found.name, found.space, _, rfl, found.named, found.spaced, addressed⟩
    have signed := signer_iff.mpr ⟨found.gap, _, rfl, found.apart, named⟩
    have starts := starts_iff.mpr ⟨found.word, _, rfl, found.spells, signed⟩
    exact ⟨found.before, _, found.whole.trans (by simp), found.begins, starts⟩

theorem has_text_eq (message : Wording) :
    has (.text message) = .ok (isIn message.shown.toList) := by
  by_cases empty : message = ("" : Wording)
  · subst empty
    rfl
  · simp [has, Json.isFalsy, empty]

/-- Every text is looked through for a sign-off, and one is found if and only if the text can be cut
into the parts of one. -/
theorem has_text_iff_occurs (message : Wording) :
    ∃ found, has (.text message) = .ok found ∧
      (found = true ↔ Nonempty (Occurrence message.shown.toList)) :=
  ⟨isIn message.shown.toList, has_text_eq message, isIn_iff⟩

end Steward.Signoff
