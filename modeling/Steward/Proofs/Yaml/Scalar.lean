import Steward.Proofs.Text.Hex
import Steward.Proofs.Yaml.Cursor

/-! Reading scalars. Each ends in the text that it starts in; an escape beyond all characters is the
only fault besides malformed ones. -/

namespace Steward.Yaml

open Cursor

variable {text : List Char} {cursor : Cursor}

/-! ## Plain scalars -/

theorem isIn_plainBreaks (bound : Nat) (breaks : List Char) (inText : cursor.IsIn text) :
    (plainBreaks bound breaks cursor).2.IsIn text := by
  induction bound generalizing breaks cursor with
  | zero => exact inText
  | succ bound induction =>
      rw [plainBreaks]
      have afterBreak := inText.lineBreak
      split
      · exact induction breaks inText.advance
      · split
        · exact inText
        · rename_i broken
          rw [broken] at afterBreak
          split
          · exact afterBreak
          · exact induction _ afterBreak

theorem isIn_plainBlanks (inText : cursor.IsIn text) : (plainBlanks cursor).2.1.IsIn text := by
  have afterSpaces := inText.span (· = ' ')
  have afterBreak := afterSpaces.lineBreak
  unfold plainBlanks
  dsimp only
  split
  · exact afterSpaces
  · rename_i lineBreak next _ broken
    rw [broken] at afterBreak
    have afterBreaks := isIn_plainBreaks next.rest.length [] afterBreak
    split
    · exact afterBreak
    · split
      · rename_i read
        rwa [read] at afterBreaks
      · rename_i read
        rwa [read] at afterBreaks

theorem isIn_plainFrom (inFlow : Bool) (indent : Int) (bound : Nat) (before blanks : List Char)
    (inText : cursor.IsIn text) :
    (plainFrom inFlow indent bound before blanks cursor).cursor.IsIn text := by
  induction bound generalizing before blanks cursor with
  | zero => exact inText
  | succ bound induction =>
      have afterBlanks := isIn_plainBlanks (inText.skip (plainRun inFlow cursor.rest).length)
      rw [plainFrom]
      dsimp only
      split
      · exact afterBlanks
      · exact induction _ _ afterBlanks

theorem isIn_plain (inFlow : Bool) (indent : Int) (inText : cursor.IsIn text) :
    (plain inFlow indent cursor).cursor.IsIn text :=
  isIn_plainFrom inFlow indent _ [] [] inText

/-! ## Quoted scalars -/

theorem reads_quotedBreaks (bound : Nat) (breaks : List Char) (inText : cursor.IsIn text) :
    Reads text (quotedBreaks bound breaks cursor) := by
  induction bound generalizing breaks cursor with
  | zero => exact inText
  | succ bound induction =>
      rw [quotedBreaks]
      have afterBlanks := inText.skipWhile fun character => character = ' ' || character = '\t'
      have afterBreak := afterBlanks.lineBreak
      split
      · exact trivial
      · dsimp only
        split
        · exact afterBlanks
        · rename_i broken
          rw [broken] at afterBreak
          exact induction _ afterBreak

theorem reads_quotedBlanks (inText : cursor.IsIn text) : Reads text (quotedBlanks cursor) := by
  have afterBlanks := inText.span fun character => character = ' ' || character = '\t'
  have afterBreak := afterBlanks.lineBreak
  unfold quotedBlanks
  dsimp only
  split
  · exact trivial
  · split
    · exact afterBlanks
    · rename_i broken
      rw [broken] at afterBreak
      exact (reads_quotedBreaks _ [] afterBreak).bind fun breaks final inText => inText

/-- Only the longest escapes have more than four digits. -/
theorem escapeWidth_cases {mark : Char} {width : Nat} (widthIs : escapeWidth mark = some width) :
    mark = 'U' ∧ width = 8 ∨ width ≤ 4 := by
  unfold escapeWidth at widthIs
  split at widthIs
  · cases widthIs
    exact .inr (by decide)
  · cases widthIs
    exact .inr (by decide)
  · cases widthIs
    exact .inl ⟨rfl, rfl⟩
  · cases widthIs

/-- An escape beyond all characters is a long one, and its digits say so. -/
theorem meets_codePoint {width code : Nat} (inText : cursor.IsIn text)
    (backslash : cursor.peek = '\\') (widthIs : escapeWidth cursor.advance.peek = some width)
    (isNumber : Text.hexNumber? width 0 cursor.advance.advance.rest = some code) :
    Meets Anything (Excuses (Blames text)) (codePoint code) := by
  unfold codePoint
  split
  · rename_i beyond
    rcases escapeWidth_cases widthIs with ⟨mark, rfl⟩ | short
    · rcases Text.hexNumber?_take isNumber with ⟨eight, codeIs⟩
      refine .escape ?_ eight codeIs beyond
      have begins : cursor.rest = '\\' :: 'U' :: cursor.advance.advance.rest := by
        rw [rest_of_peek backslash (by decide), rest_of_peek mark (by decide)]
      have written : '\\' :: 'U' :: cursor.advance.advance.rest.take 8 <+: cursor.rest := by
        rw [begins]
        exact (List.prefix_cons_inj _).mpr ((List.prefix_cons_inj _).mpr (List.take_prefix 8 _))
      exact written.isInfix.trans inText.isInfix
    · have small := Text.hexNumber?_lt isNumber
      have power : 16 ^ width ≤ 16 ^ 4 := Nat.pow_le_pow_right (by decide) short
      omega
  · exact trivial

/-- What a backslash stands for, read from behind it. -/
theorem reads_quotedEscape (inText : cursor.IsIn text) (backslash : cursor.peek = '\\') :
    Reads text (quotedEscape cursor.advance) := by
  unfold quotedEscape
  dsimp only
  split
  · exact inText.advance.advance
  · rename_i widthIs
    split
    · rename_i isNumber
      exact (meets_codePoint inText backslash widthIs isNumber).bind fun _ _ =>
        inText.advance.advance.skip _
    · exact trivial
  · split
    · exact (reads_quotedBreaks _ [] inText.advance.lineBreak).bind fun _ _ => id
    · exact trivial

theorem reads_quotedRun (double : Bool) (bound : Nat) (before : List Text.CodePoint)
    (inText : cursor.IsIn text) : Reads text (quotedRun double bound before cursor) := by
  induction bound generalizing before cursor with
  | zero => exact inText
  | succ bound induction =>
      rw [quotedRun]
      dsimp only
      split
      · exact inText
      · split
        · rename_i isEscape
          have backslash := of_decide_eq_true (Bool.and_eq_true_iff.mp isEscape).2
          exact (reads_quotedEscape inText backslash).bind fun _ _ inText => induction _ inText
        · split
          · exact inText
          · split
            · split
              · exact induction _ (inText.skip 2)
              · exact inText
            · exact induction _ inText.advance

theorem reads_quotedFrom (double : Bool) (bound : Nat) (before : List Text.CodePoint)
    (inText : cursor.IsIn text) : Reads text (quotedFrom double bound before cursor) := by
  induction bound generalizing before cursor with
  | zero => exact trivial
  | succ bound induction =>
      rw [quotedFrom]
      refine (reads_quotedRun double bound before inText).bind fun before after inText => ?_
      refine Meets.ite (fun _ => inText.advance) fun _ => ?_
      exact (reads_quotedBlanks inText).bind fun blanks next inText => induction _ inText

theorem reads_quoted (double : Bool) (inText : cursor.IsIn text) :
    Reads text (quoted double cursor) :=
  (reads_quotedFrom double _ [] inText.advance).bind fun _ _ => id

/-! ## Block scalars -/

theorem meets_blockHeader (inText : cursor.IsIn text) :
    Meets (fun read => read.2.2.IsIn text) (Excuses (Blames text)) (blockHeader cursor) := by
  unfold blockHeader
  split
  rename_i early after first
  have afterFirst : after.IsIn text := by
    split at first
    · cases first
      exact inText.advance
    · cases first
      exact inText
  refine .ite (fun _ => .ite (fun _ => trivial) fun _ => ?_) fun _ => ?_
  · simp only [pure_bind]
    split
    · refine .ite (fun _ => trivial) fun _ => ?_
      split
      · exact afterFirst.advance.advance.finishLine ‹_›
      · exact trivial
    · refine .ite (fun _ => trivial) fun _ => ?_
      split
      · exact afterFirst.advance.finishLine ‹_›
      · exact trivial
  · simp only [pure_bind]
    refine .ite (fun _ => trivial) fun _ => ?_
    split
    · exact afterFirst.finishLine ‹_›
    · exact trivial

theorem isIn_blockIndentation (bound : Nat) (breaks : List Char) (greatest : Nat)
    (inText : cursor.IsIn text) :
    (blockIndentation bound breaks greatest cursor).2.2.IsIn text := by
  induction bound generalizing breaks greatest cursor with
  | zero => exact inText
  | succ bound induction =>
      rw [blockIndentation]
      have afterBreak := inText.lineBreak
      split
      · exact induction _ _ inText.advance
      · split
        · exact inText
        · rename_i broken
          rw [broken] at afterBreak
          exact induction _ _ afterBreak

theorem isIn_blockBreaks (indent bound : Nat) (breaks : List Char) (inText : cursor.IsIn text) :
    (blockBreaks indent bound breaks cursor).2.IsIn text := by
  induction bound generalizing breaks cursor with
  | zero => exact inText
  | succ bound induction =>
      rw [blockBreaks]
      have indented : (skipIndentation indent cursor).IsIn text := inText.skip _
      have afterBreak := indented.lineBreak
      split
      · exact indented
      · rename_i broken
        rw [broken] at afterBreak
        exact induction _ afterBreak

theorem isIn_blockLines (folded : Bool) (chomping : Chomping) (indent bound : Nat)
    (before lineBreak breaks : List Char) (inText : cursor.IsIn text) :
    (blockLines folded chomping indent bound before lineBreak breaks cursor).2.IsIn text := by
  induction bound generalizing before lineBreak breaks cursor with
  | zero => exact inText
  | succ bound induction =>
      rw [blockLines]
      have afterBreak := (inText.span (!isLineEnd ·)).lineBreak
      have afterBreaks := isIn_blockBreaks indent bound [] afterBreak
      split
      · exact inText
      · dsimp only
        split
        · exact afterBreaks
        · exact induction _ _ _ afterBreaks

theorem reads_block (folded : Bool) (parent : Int) (inText : cursor.IsIn text) :
    Reads text (block folded parent cursor) := by
  refine (meets_blockHeader inText.advance).bind fun header inText => ?_
  rcases header with ⟨chomping, increment, start⟩
  cases increment with
  | some increment =>
      have first := isIn_blockBreaks ((max (parent + 1) 1).toNat + increment - 1)
        (start.rest.length + 1) [] inText
      exact isIn_blockLines _ _ _ _ _ _ _ first
  | none =>
      have first := isIn_blockIndentation (start.rest.length + 1) [] 0 inText
      exact isIn_blockLines _ _ _ _ _ _ _ first

end Steward.Yaml
