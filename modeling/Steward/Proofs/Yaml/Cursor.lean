import Steward.Proofs.Yaml.Blame

/-! Cursors stay in their text: what is still to come is always an end of it. -/

namespace Steward.Yaml

namespace Cursor

variable {text : List Char} {cursor : Cursor}

theorem rest_advance (cursor : Cursor) : cursor.advance.rest = cursor.rest.drop 1 := by
  unfold advance
  cases rest : cursor.rest with
  | nil => exact rest
  | cons character rest =>
      dsimp only
      split <;> rfl

theorem rest_skip (cursor : Cursor) (count : Nat) :
    (cursor.skip count).rest = cursor.rest.drop count := by
  induction count generalizing cursor with
  | zero => rfl
  | succ count induction =>
      rw [skip, induction, rest_advance, List.drop_drop, Nat.add_comm]

/-- A character in front is one of the text, unless it stands for its end. -/
theorem rest_of_peek {character : Char} (peek : cursor.peek = character)
    (more : character ≠ endMark) : cursor.rest = character :: cursor.advance.rest := by
  rw [rest_advance]
  unfold Cursor.peek at peek
  cases rest : cursor.rest with
  | nil => exact absurd (by simpa [rest] using peek.symm) more
  | cons other rest => simpa [rest] using peek

def IsIn (text : List Char) (cursor : Cursor) : Prop := cursor.rest <:+ text

theorem isIn_start (text : List Char) : (start text).IsIn text := List.suffix_rfl

namespace IsIn

theorem advance (inText : cursor.IsIn text) : cursor.advance.IsIn text := by
  unfold IsIn
  rw [rest_advance]
  exact (List.drop_suffix 1 _).trans inText

theorem skip (inText : cursor.IsIn text) (count : Nat) : (cursor.skip count).IsIn text := by
  unfold IsIn
  rw [rest_skip]
  exact (List.drop_suffix count _).trans inText

theorem span (inText : cursor.IsIn text) (test : Char → Bool) : (cursor.span test).2.IsIn text :=
  inText.skip _

theorem skipWhile (inText : cursor.IsIn text) (test : Char → Bool) :
    (cursor.skipWhile test).IsIn text :=
  inText.span test

theorem skipSpaces (inText : cursor.IsIn text) : cursor.skipSpaces.IsIn text :=
  inText.skipWhile _

theorem lineBreak (inText : cursor.IsIn text) : cursor.lineBreak.2.IsIn text := by
  unfold Cursor.lineBreak
  split
  · exact inText.skip 2
  · split
    · exact inText.advance
    · split
      · exact inText.advance
      · exact inText
  · exact inText

/-- A comment in front is passed over. -/
theorem comment (inText : cursor.IsIn text) :
    (if cursor.peek = '#' then cursor.skipWhile (!isLineEnd ·) else cursor).IsIn text := by
  split
  · exact inText.skipWhile _
  · exact inText

theorem finishLine (inText : cursor.IsIn text) {next : Cursor}
    (finishes : cursor.finishLine = some next) : next.IsIn text := by
  rcases Option.ite_none_right_eq_some.mp finishes with ⟨-, same⟩
  exact Option.some.inj same ▸ inText.skipSpaces.comment.lineBreak

end IsIn

end Cursor

/-- What is read ends in the text, or fails for a reason in it. -/
def Reads {α : Type} (text : List Char) (result : Except Fault (α × Cursor)) : Prop :=
  Meets (fun read => read.2.IsIn text) (Excuses (Blames text)) result

theorem Reads.bind {α β : Type} {text : List Char} {result : Except Fault (α × Cursor)}
    {next : α × Cursor → Except Fault (β × Cursor)} (reads : Reads text result)
    (continues : ∀ value after, after.IsIn text → Reads text (next (value, after))) :
    Reads text (result >>= next) :=
  Meets.bind reads fun read => continues read.1 read.2

end Steward.Yaml
