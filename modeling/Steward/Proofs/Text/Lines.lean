import Steward.Text.Blank
import Steward.Text.Lines

/-! Texts and their lines. A text of lines starts with its first line, and is not blank if this line
is not; the pieces of a text are what stands between two separators, or between one and an end.
Lines that hold no line feed are read back from their text. -/

namespace Steward.Text

@[simp] theorem isAllBlank_append (first second : String) :
    isAllBlank (first ++ second) = (isAllBlank first && isAllBlank second) := by
  simp [isAllBlank]

theorem ofLines_starts (first : String) (rest : List String) :
    ∃ tail, ofLines (first :: rest) = first ++ tail := by
  cases rest with
  | nil => exact ⟨"", by simp [ofLines]⟩
  | cons second rest =>
      refine ⟨"\n" ++ ofLines (second :: rest), ?_⟩
      rw [ofLines, String.intercalate_cons_cons, String.append_assoc]
      rfl

theorem isAllBlank_ofLines {first : String} {rest : List String}
    (spoken : isAllBlank first = false) : isAllBlank (ofLines (first :: rest)) = false := by
  rcases ofLines_starts first rest with ⟨tail, split⟩
  simp [split, spoken]

/-! ## Pieces -/

theorem pieces_eq_splitOn (separator : Char) (text : List Char) :
    pieces separator text = text.splitOn separator := by
  induction text with
  | nil => rfl
  | cons character rest induction =>
      rw [pieces, induction, List.splitOn_cons_eq_if_modifyHead]
      by_cases equal : character = separator
      · simp [equal]
      · cases others : rest.splitOn separator with
        | nil => exact absurd others (List.splitOn_ne_nil separator rest)
        | cons piece others => simp [equal]

def EndsPiece (separator : Char) (before : List Char) : Prop :=
  before = [] ∨ before.getLast? = some separator

/-- What stands in a text from the end of a piece to the next end of one. -/
structure IsPieceOf (separator : Char) (piece text : List Char) : Prop where
  unbroken : separator ∉ piece
  between : ∃ before after, text = before ++ piece ++ after ∧ EndsPiece separator before ∧
    (after = [] ∨ after.head? = some separator)

variable {separator : Char} {before piece text : List Char}

theorem EndsPiece.eq (ends : EndsPiece separator before) :
    before = [] ∨ ∃ earlier, before = earlier ++ [separator] :=
  ends.imp_right List.getLast?_eq_some_iff.mp

theorem EndsPiece.prepend (ends : EndsPiece separator before) (earlier : List Char) :
    EndsPiece separator (earlier ++ separator :: before) := by
  rcases ends.eq with rfl | ⟨middle, rfl⟩
  · exact .inr (by simp)
  · exact .inr (by simp [List.getLast?_append, List.getLast?_cons])

theorem IsPieceOf.mem_pieces (isPiece : IsPieceOf separator piece text) :
    piece ∈ pieces separator text := by
  rcases isPiece.between with ⟨before, after, rfl, begins, ends⟩
  rw [pieces_eq_splitOn]
  have tail : ∃ others, (piece ++ after).splitOn separator = piece :: others := by
    cases after with
    | nil => exact ⟨[], by rw [List.append_nil, List.splitOn_eq_singleton isPiece.unbroken]⟩
    | cons character rest =>
        have equal : character = separator := by simpa using ends
        subst equal
        exact ⟨_, by rw [List.splitOn_append_cons_self,
          List.splitOn_eq_singleton isPiece.unbroken, List.singleton_append]⟩
  rcases tail with ⟨others, tail⟩
  rcases begins.eq with rfl | ⟨earlier, rfl⟩
  · simp [tail]
  · rw [List.append_assoc, List.append_assoc, List.singleton_append,
      List.splitOn_append_cons_self, tail]
    simp

/-- Pieces are found from the front: the first goes up to the first separator, and the others are
those of the rest. -/
theorem isPieceOf_of_mem_pieces (text : List Char) (isPiece : piece ∈ pieces separator text) :
    IsPieceOf separator piece text := by
  rw [pieces_eq_splitOn] at isPiece
  by_cases broken : separator ∈ text
  · rcases List.eq_append_cons_of_mem broken with ⟨first, rest, rfl, unbroken⟩
    rw [List.splitOn_append_cons_self, List.splitOn_eq_singleton unbroken, List.singleton_append,
      List.mem_cons] at isPiece
    rcases isPiece with rfl | later
    · exact ⟨unbroken, [], separator :: rest, rfl, .inl rfl, .inr rfl⟩
    · have found := isPieceOf_of_mem_pieces rest (by rwa [pieces_eq_splitOn])
      rcases found.between with ⟨before, after, rfl, begins, ends⟩
      exact ⟨found.unbroken, first ++ separator :: before, after, by simp,
        begins.prepend first, ends⟩
  · rw [List.splitOn_eq_singleton broken, List.mem_singleton] at isPiece
    subst isPiece
    exact ⟨broken, [], [], by simp, .inl rfl, .inl rfl⟩
termination_by text.length
decreasing_by subst_vars; simp; omega

theorem mem_pieces_iff : piece ∈ pieces separator text ↔ IsPieceOf separator piece text :=
  ⟨isPieceOf_of_mem_pieces text, IsPieceOf.mem_pieces⟩

/-- A piece that has begun goes on up to the next separator. -/
theorem exists_mem_pieces {start rest : List Char} (whole : text = before ++ start ++ rest)
    (begins : EndsPiece separator before) (unbroken : separator ∉ start) :
    ∃ more after, rest = more ++ after ∧ start ++ more ∈ pieces separator text := by
  subst whole
  by_cases broken : separator ∈ rest
  · rcases List.eq_append_cons_of_mem broken with ⟨more, after, rfl, runs⟩
    refine ⟨more, separator :: after, rfl, IsPieceOf.mem_pieces ⟨by simp [unbroken, runs], ?_⟩⟩
    exact ⟨before, separator :: after, by simp, begins, .inr rfl⟩
  · refine ⟨rest, [], by simp, IsPieceOf.mem_pieces ⟨by simp [unbroken, broken], ?_⟩⟩
    exact ⟨before, [], by simp, begins, .inl rfl⟩

/-! ## Lines read back -/

/-- Lines are read back if none of them is broken. -/
theorem lines_ofLines {given : List String} (some_ : given ≠ [])
    (unbroken : ∀ line ∈ given, '\n' ∉ line.toList) : lines (ofLines given) = given := by
  have feed : "\n".toList = ['\n'] := rfl
  have whole : pieces '\n' (ofLines given).toList = given.map String.toList := by
    rw [pieces_eq_splitOn, ofLines, String.toList_intercalate, feed]
    exact List.splitOn_intercalate _ (by simpa using unbroken) (by simpa using some_)
  rw [lines, whole, List.map_map]
  simp

end Steward.Text
