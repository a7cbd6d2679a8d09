import Steward.Text.Blank

/-! Blank ends. A text is what is left of it between blanks, and blanks at its ends make no
difference to that. -/

namespace Steward.Text

abbrev AreBlank (text : List Char) : Prop := ∀ character ∈ text, isBlank character = true

variable {text before after : List Char}

/-- A text is its first blanks and a rest that begins with no blank. -/
theorem exists_blanks (text : List Char) :
    ∃ blanks, text = blanks ++ dropBlanks text ∧ AreBlank blanks ∧
      ∀ character rest, dropBlanks text = character :: rest → isBlank character = false := by
  refine ⟨text.takeWhile isBlank, List.takeWhile_append_dropWhile.symm,
    List.all_eq_true.mp List.all_takeWhile, ?_⟩
  intro character rest left
  have stops := List.head?_dropWhile_not isBlank text
  rw [← dropBlanks, left] at stops
  exact stops

theorem exists_strip (text : List Char) :
    ∃ before after, text = before ++ strip text ++ after ∧ AreBlank before ∧ AreBlank after := by
  rcases exists_blanks text with ⟨before, whole, blankBefore, -⟩
  rcases exists_blanks (dropBlanks text).reverse with ⟨after, turned, blankAfter, -⟩
  have rest : dropBlanks text = strip text ++ after.reverse := by
    rw [strip, ← List.reverse_append, ← turned, List.reverse_reverse]
  refine ⟨before, after.reverse, ?_, blankBefore, ?_⟩
  · rw [List.append_assoc, ← rest, ← whole]
  · intro character among
    exact blankAfter character (List.mem_reverse.mp among)

theorem dropBlanks_append (blank : AreBlank before) (text : List Char) :
    dropBlanks (before ++ text) = dropBlanks text :=
  List.dropWhile_append_of_pos blank

theorem dropBlanks_eq_nil (blank : AreBlank text) : dropBlanks text = [] := by
  rw [← List.append_nil text, dropBlanks_append blank]
  rfl

theorem strip_append (blankBefore : AreBlank before) (blankAfter : AreBlank after)
    (text : List Char) : strip (before ++ text ++ after) = strip text := by
  have blankTurned : AreBlank after.reverse := by
    intro character among
    exact blankAfter character (List.mem_reverse.mp among)
  rw [List.append_assoc, strip, dropBlanks_append blankBefore, strip]
  congr 1
  rw [dropBlanks.eq_def (text ++ after), List.dropWhile_append]
  split
  · rename_i nothing
    have none_ : dropBlanks text = [] := List.isEmpty_iff.mp nothing
    rw [none_, ← dropBlanks, dropBlanks_eq_nil blankAfter]
  · rw [List.reverse_append, dropBlanks_append blankTurned]
    rfl

/-- Nothing is taken from a text without blanks. -/
theorem strip_eq_self (visible : ∀ character ∈ text, isBlank character = false) :
    strip text = text := by
  have keep (kept : List Char) (seen : ∀ character ∈ kept, isBlank character = false) :
      dropBlanks kept = kept := by
    cases kept with
    | nil => rfl
    | cons first rest => simp [dropBlanks, seen first List.mem_cons_self]
  rw [strip, keep text visible, keep, List.reverse_reverse]
  intro character among
  exact visible character (List.mem_reverse.mp among)

/-! ## Visible characters -/

def visible (text : List Char) : List Char := text.filter (!isBlank ·)

theorem visible_append (first second : List Char) :
    visible (first ++ second) = visible first ++ visible second :=
  List.filter_append first second

theorem visible_eq_nil (blank : AreBlank text) : visible text = [] :=
  List.filter_eq_nil_iff.mpr fun character among => by simp [blank character among]

theorem visible_eq_self (seen : ∀ character ∈ text, isBlank character = false) :
    visible text = text :=
  List.filter_eq_self.mpr fun character among => by simp [seen character among]

theorem visible_length_pos {character : Char} (among : character ∈ text)
    (seen : isBlank character = false) : 0 < (visible text).length :=
  List.length_pos_of_mem (List.mem_filter.mpr ⟨among, by simp [seen]⟩)

end Steward.Text
