import Steward.Proofs.Commit.Signoff
import Steward.Proofs.Text.Blank

/-! Sign-offs and lines. A line that is a sign-off by itself lets its message pass. So do a sign-off
that goes over the end of its line and one whose name is blank; messages without irregular lines
have neither, and pass exactly by such a line. -/

namespace Steward.Signoff

variable {text line : List Char}

def Occurrence.IsNamed (found : Occurrence text) : Prop :=
  ∃ character ∈ found.name, Text.isBlank character = false

structure Occurrence.StaysOnLine (found : Occurrence text) : Prop where
  gap : '\n' ∉ found.gap
  space : '\n' ∉ found.space

def IsSignoffLine (line : List Char) : Prop :=
  ∃ found : Occurrence line, found.before = [] ∧ found.IsNamed

/-- A line with a part of a sign-off and without the name that belongs there: after the key the line
ends or goes on with an address, or the line begins with an address. -/
inductive IsIrregular : List Char → Prop
  | key {word blanks rest : List Char} (spells : Text.Spells key word)
      (blank : ∀ character ∈ blanks, Text.isBlank character = true)
      (nameless : rest = [] ∨ rest.head? = some '<') : IsIrregular (word ++ blanks ++ rest)
  | address {blanks rest : List Char}
      (blank : ∀ character ∈ blanks, Text.isBlank character = true) :
      IsIrregular (blanks ++ '<' :: rest)

/-! ## Ends of lines -/

theorem feed_not_mem_of_spells {word : List Char} (spells : Text.Spells key word) :
    '\n' ∉ word := by
  have table : (key.all fun letter => !Text.isVariant letter '\n') = true := by decide +kernel
  intro feed
  rcases spells.exists_letter feed with ⟨letter, among, same⟩
  have differs := List.all_eq_true.mp table letter among
  simp [Text.isVariant_iff.mpr same] at differs

/-! ## Lines of a message -/

/-- A line that is a sign-off is one in its message. -/
theorem IsSignoffLine.occurs (signed : IsSignoffLine line) (isLine : line ∈ Text.pieces '\n' text) :
    ∃ found : Occurrence text, found.StaysOnLine ∧ found.IsNamed := by
  rcases signed with ⟨found, first, named⟩
  rcases Text.mem_pieces_iff.mp isLine with ⟨unbroken, before, after, rfl, begins, -⟩
  have whole := found.whole
  rw [first, List.nil_append] at whole
  rw [whole] at unbroken
  simp only [List.mem_append, not_or] at unbroken
  refine ⟨{ found with
    before
    after := found.after ++ after
    whole := (congrArg (before ++ · ++ after) whole).trans (by simp)
    begins }, ⟨unbroken.1.1.1.1.2, unbroken.1.1.2⟩, named⟩

theorem Occurrence.exists_signoffLine (found : Occurrence text) (stays : found.StaysOnLine)
    (named : found.IsNamed) : ∃ line ∈ Text.pieces '\n' text, IsSignoffLine line := by
  have whole : text = found.before ++ (found.word ++ found.gap ++ found.name ++ found.space ++
      '<' :: found.address ++ ['>']) ++ found.after := found.whole.trans (by simp)
  rcases Text.exists_mem_pieces whole found.begins (by
    simp [feed_not_mem_of_spells found.spells, stays.gap, found.named.onLine, stays.space,
      found.addressed.onLine]) with ⟨more, after, -, isLine⟩
  refine ⟨_, isLine, { found with
    before := []
    after := more
    whole := by simp
    begins := .inl rfl }, rfl, named⟩

/-! ## Irregular lines -/

/-- A sign-off whose name comes later leaves its key alone on a line. -/
theorem Occurrence.irregular_of_gap (found : Occurrence text) (crosses : '\n' ∈ found.gap) :
    ∃ line ∈ Text.pieces '\n' text, IsIrregular line := by
  rcases List.eq_append_cons_of_mem crosses with ⟨blanks, more, split, onLine⟩
  have blank (character : Char) (among : character ∈ blanks) : Text.isBlank character = true :=
    found.apart.blank character (by simp [split, among])
  refine ⟨found.word ++ blanks ++ [], Text.mem_pieces_iff.mpr ⟨?_, ?_⟩,
    .key found.spells blank (.inl rfl)⟩
  · simp [feed_not_mem_of_spells found.spells, onLine]
  · refine ⟨found.before, '\n' :: more ++ found.name ++ found.space ++ '<' :: found.address ++
      '>' :: found.after, found.whole.trans (by simp [split]), found.begins, .inr rfl⟩

/-- A sign-off whose address comes later begins a line with it. -/
theorem Occurrence.irregular_of_space (found : Occurrence text) (crosses : '\n' ∈ found.space) :
    ∃ line ∈ Text.pieces '\n' text, IsIrregular line := by
  rcases List.eq_append_cons_of_mem (List.mem_reverse.mpr crosses) with
    ⟨last, first, turned, onLine⟩
  have split : found.space = first.reverse ++ '\n' :: last.reverse := by
    rw [← List.reverse_reverse found.space, turned]
    simp
  have blank (character : Char) (among : character ∈ last.reverse) :
      Text.isBlank character = true :=
    found.spaced.blank character (by simp [split, List.mem_reverse.mp among])
  have whole : text = (found.before ++ found.word ++ found.gap ++ found.name ++ first.reverse ++
      ['\n']) ++ (last.reverse ++ ['<']) ++ (found.address ++ '>' :: found.after) :=
    found.whole.trans (by simp [split])
  have unbroken : '\n' ∉ last.reverse ++ ['<'] := by simp [onLine]
  rcases Text.exists_mem_pieces whole (.inr (by simp)) unbroken with ⟨more, after, -, isLine⟩
  have irregular : IsIrregular (last.reverse ++ '<' :: more) := .address blank
  exact ⟨_, isLine, by simpa using irregular⟩

/-- A sign-off on one line whose name is blank has nothing between its key and its address. -/
theorem Occurrence.irregular_of_blank (found : Occurrence text) (stays : found.StaysOnLine)
    (nameless : ¬found.IsNamed) : ∃ line ∈ Text.pieces '\n' text, IsIrregular line := by
  have blankName : ∀ character ∈ found.name, Text.isBlank character = true := by
    simpa [IsNamed] using nameless
  have blank : ∀ character ∈ found.gap ++ found.name ++ found.space,
      Text.isBlank character = true :=
    List.forall_mem_append.mpr
      ⟨List.forall_mem_append.mpr ⟨found.apart.blank, blankName⟩, found.spaced.blank⟩
  have whole : text = found.before ++ (found.word ++ (found.gap ++ found.name ++ found.space) ++
      ['<']) ++ (found.address ++ '>' :: found.after) := found.whole.trans (by simp)
  rcases Text.exists_mem_pieces whole found.begins (by
    simp [feed_not_mem_of_spells found.spells, stays.gap, found.named.onLine, stays.space]) with
    ⟨more, after, -, isLine⟩
  have irregular : IsIrregular
      (found.word ++ (found.gap ++ found.name ++ found.space) ++ '<' :: more) :=
    .key found.spells blank (.inr rfl)
  exact ⟨_, isLine, by simpa using irregular⟩

theorem Occurrence.irregular (found : Occurrence text)
    (flawed : ¬found.StaysOnLine ∨ ¬found.IsNamed) :
    ∃ line ∈ Text.pieces '\n' text, IsIrregular line := by
  by_cases gap : '\n' ∈ found.gap
  · exact found.irregular_of_gap gap
  · by_cases space : '\n' ∈ found.space
    · exact found.irregular_of_space space
    · have stays : found.StaysOnLine := ⟨gap, space⟩
      exact found.irregular_of_blank stays (flawed.resolve_left (not_not_intro stays))

/-! ## Deciding about lines

Whether a line is a sign-off by itself can be told without a search for its name: all blanks after
the key are passed over, and the name begins with the first character that is none. -/

def isSignoffLine (line : List Char) : Bool :=
  match Text.afterWord key line with
  | some rest => rest.head?.any Text.isBlank && name (Text.dropBlanks rest)
  | none => false

theorem IsSignoffLine.of_parts {word rest : List Char} (spells : Text.Spells key word)
    (apart : rest.head?.any Text.isBlank = true) (named : name (Text.dropBlanks rest) = true) :
    IsSignoffLine (word ++ rest) := by
  rcases name_iff.mp named with ⟨found, space, _, split, named, spaced, addressed⟩
  rcases address_iff.mp addressed with ⟨address, after, rfl, isAddress⟩
  rcases Text.exists_blanks rest with ⟨gap, whole, blank, spoken⟩
  rw [split] at whole spoken
  cases found with
  | nil => exact absurd rfl named.nonempty
  | cons character more =>
      have isSpoken : Text.isBlank character = false := spoken character _ rfl
      have nonempty : gap ≠ [] := by
        intro empty
        simp [whole, empty, isSpoken] at apart
      refine ⟨{
        before := [], word, gap, name := character :: more, space, address, after
        whole := by rw [whole]; simp
        begins := .inl rfl
        apart := ⟨nonempty, blank⟩
        addressed := isAddress
        spells, named, spaced }, rfl, character, List.mem_cons_self, isSpoken⟩

/-- A name may begin with blanks; they are passed over like those before it. -/
theorem exists_dropBlanks_eq {gap found : List Char} (apart : IsGap gap) (named : IsPart found)
    (spoken : ∃ character ∈ found, Text.isBlank character = false) (more : List Char) :
    ∃ kept, IsPart kept ∧ Text.dropBlanks (gap ++ (found ++ more)) = kept ++ more := by
  rcases spoken with ⟨character, among, spoken⟩
  rcases Text.exists_blanks found with ⟨blanks, split, blank, -⟩
  have remains : Text.dropBlanks found ≠ [] := by
    intro empty
    rw [empty, List.append_nil] at split
    cases spoken.symm.trans (blank character (split ▸ among))
  refine ⟨Text.dropBlanks found,
    ⟨remains, fun feed => named.onLine ((List.dropWhile_sublist _).mem feed)⟩, ?_⟩
  rw [Text.dropBlanks, List.dropWhile_append_of_pos apart.blank, List.dropWhile_append]
  exact if_neg fun empty => remains (List.isEmpty_iff.mp empty)

theorem isSignoffLine_iff : isSignoffLine line = true ↔ IsSignoffLine line := by
  unfold isSignoffLine
  constructor
  · intro signed
    split at signed
    · rename_i rest read
      rw [Bool.and_eq_true] at signed
      rcases Text.afterWord_eq_some_iff.mp read with ⟨word, spells, rfl⟩
      exact .of_parts spells signed.1 signed.2
    · cases signed
  · intro signed
    rcases signed with ⟨found, first, spoken⟩
    have whole : line = found.word ++ (found.gap ++ (found.name ++ (found.space ++
        '<' :: (found.address ++ '>' :: found.after)))) := found.whole.trans (by simp [first])
    have addressed := address_iff.mpr ⟨found.address, found.after, rfl, found.addressed⟩
    rcases exists_dropBlanks_eq found.apart found.named spoken (found.space ++
      '<' :: (found.address ++ '>' :: found.after)) with ⟨kept, named, left⟩
    rw [Text.afterWord_eq_some_iff.mpr ⟨found.word, found.spells, whole⟩]
    simp only [left, Bool.and_eq_true]
    constructor
    · cases gap : found.gap with
      | nil => exact absurd gap found.apart.nonempty
      | cons blank blanks => simp [found.apart.blank blank (by simp [gap])]
    · exact name_iff.mpr ⟨kept, found.space, _, by simp, named, found.spaced, addressed⟩

instance : DecidablePred IsSignoffLine := fun _ => decidable_of_iff _ isSignoffLine_iff

def lacksName (rest : List Char) : Bool := rest.isEmpty || rest.head? == some '<'

def isIrregular (line : List Char) : Bool :=
  (Text.afterWord key line).any (fun rest => lacksName (Text.dropBlanks rest)) ||
    (Text.dropBlanks line).head? == some '<'

theorem isIrregular_iff : isIrregular line = true ↔ IsIrregular line := by
  simp only [isIrregular, lacksName, Bool.or_eq_true, Option.any_eq_true, List.isEmpty_iff,
    beq_iff_eq]
  constructor
  · intro irregular
    rcases irregular with ⟨rest, read, nameless⟩ | opens
    · rcases Text.afterWord_eq_some_iff.mp read with ⟨word, spells, rfl⟩
      rcases Text.exists_blanks rest with ⟨blanks, split, blank, -⟩
      rw [split, ← List.append_assoc]
      exact .key spells blank nameless
    · rcases Text.exists_blanks line with ⟨blanks, split, blank, -⟩
      rcases List.head?_eq_some_iff.mp opens with ⟨rest, left⟩
      rw [split, left]
      exact .address blank
  · intro irregular
    have notBlank : Text.isBlank '<' = false := by decide
    cases irregular with
    | @key word blanks rest spells blank nameless =>
        refine .inl ⟨blanks ++ rest, Text.afterWord_eq_some_iff.mpr ⟨word, spells, by simp⟩, ?_⟩
        rw [Text.dropBlanks, List.dropWhile_append_of_pos blank]
        rcases nameless with rfl | opens
        · exact .inl rfl
        · rcases List.head?_eq_some_iff.mp opens with ⟨more, rfl⟩
          exact .inr (by simp [notBlank])
    | @address blanks rest blank =>
        refine .inr ?_
        rw [Text.dropBlanks, List.dropWhile_append_of_pos blank]
        simp [notBlank]

instance : DecidablePred IsIrregular := fun _ => decidable_of_iff _ isIrregular_iff

/-! ## Messages -/

/-- The search misses no line that is a sign-off. Besides, it finds a sign-off that goes over the
end of its line, and one with a blank name. A message without irregular lines has neither, and
passes exactly by a line that is a sign-off. -/
theorem has_iff_signoffLine_or_flawed (message : Wording) :
    (has (.text message) = .ok true ↔
      (∃ line ∈ Text.pieces '\n' message.shown.toList, IsSignoffLine line) ∨
        ∃ found : Occurrence message.shown.toList, ¬found.StaysOnLine ∨ ¬found.IsNamed) ∧
    ((∀ line ∈ Text.pieces '\n' message.shown.toList, ¬IsIrregular line) →
      (has (.text message) = .ok true ↔
        ∃ line ∈ Text.pieces '\n' message.shown.toList, IsSignoffLine line)) := by
  have found_iff : has (.text message) = .ok true ↔ Nonempty (Occurrence message.shown.toList) := by
    rw [has_text_eq, Except.ok.injEq, isIn_iff]
  have split : has (.text message) = .ok true ↔
      (∃ line ∈ Text.pieces '\n' message.shown.toList, IsSignoffLine line) ∨
        ∃ found : Occurrence message.shown.toList, ¬found.StaysOnLine ∨ ¬found.IsNamed := by
    rw [found_iff]
    constructor
    · intro passed
      rcases passed with ⟨found⟩
      by_cases proper : found.StaysOnLine ∧ found.IsNamed
      · exact .inl (found.exists_signoffLine proper.1 proper.2)
      · exact .inr ⟨found, not_and_or.mp proper⟩
    · intro signed
      rcases signed with ⟨line, isLine, signed⟩ | ⟨found, -⟩
      · rcases signed.occurs isLine with ⟨found, -⟩
        exact ⟨found⟩
      · exact ⟨found⟩
  refine ⟨split, fun regular => split.trans (or_iff_left ?_)⟩
  intro flawed
  rcases flawed with ⟨found, flawed⟩
  rcases found.irregular flawed with ⟨line, isLine, irregular⟩
  exact regular line isLine irregular

/-- A message of which all lines are regular, and one of them is a sign-off. -/
theorem has_iff_signoffLine_or_flawed_regular :
    (∀ line ∈ Text.pieces '\n' "Fix it\n\nSigned-off-by: Ada <ada@b.c>".toList, ¬IsIrregular line) ∧
      (∃ line ∈ Text.pieces '\n' "Fix it\n\nSigned-off-by: Ada <ada@b.c>".toList,
        IsSignoffLine line) ∧
      has (.text "Fix it\n\nSigned-off-by: Ada <ada@b.c>") = .ok true := by
  have regular : ∀ line ∈ Text.pieces '\n' "Fix it\n\nSigned-off-by: Ada <ada@b.c>".toList,
      ¬IsIrregular line := by decide +kernel
  have signed : ∃ line ∈ Text.pieces '\n' "Fix it\n\nSigned-off-by: Ada <ada@b.c>".toList,
      IsSignoffLine line := by decide +kernel
  have passes := has_iff_signoffLine_or_flawed "Fix it\n\nSigned-off-by: Ada <ada@b.c>"
  exact ⟨regular, signed, (passes.2 regular).mpr signed⟩

/-- Not every message that passes has a line that is a sign-off: the name may come on the next line,
or the address may, or there are blanks for a name. -/
theorem has_without_signoffLine :
    (has (.text "Signed-off-by:\nReviewed-by: Ada <ada@b.c>") = .ok true ∧
      ¬∃ line ∈ Text.pieces '\n' "Signed-off-by:\nReviewed-by: Ada <ada@b.c>".toList,
        IsSignoffLine line) ∧
    (has (.text "Signed-off-by: Ada\n<ada@b.c>") = .ok true ∧
      ¬∃ line ∈ Text.pieces '\n' "Signed-off-by: Ada\n<ada@b.c>".toList, IsSignoffLine line) ∧
    (has (.text "Signed-off-by:   <ada@b.c>") = .ok true ∧
      ¬∃ line ∈ Text.pieces '\n' "Signed-off-by:   <ada@b.c>".toList, IsSignoffLine line) := by
  decide +kernel

end Steward.Signoff
