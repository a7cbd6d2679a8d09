import Steward.Proofs.Yaml.Scalar
import Steward.Proofs.Yaml.Token

/-! Scanning a text. The cursor stays in the text from step to step, and a fault is malformed or has
its reason in the text. -/

namespace Steward.Yaml

/-- Scanning goes on in the text, or fails for a reason in it. -/
def Scans (text : List Char) (result : Except Fault Scanner) : Prop :=
  Meets (fun scanner => scanner.cursor.IsIn text) (Excuses (Blames text)) result

variable {text : List Char} {scanner : Scanner}

theorem Scans.bind {result : Except Fault Scanner} {next : Scanner → Except Fault Scanner}
    (scans : Scans text result)
    (continues : ∀ scanner : Scanner, scanner.cursor.IsIn text → Scans text (next scanner)) :
    Scans text (result >>= next) :=
  Meets.bind scans continues

namespace Scanner

/-! ## Keys and indentation -/

theorem scans_dropStaleKeys (inText : scanner.cursor.IsIn text) :
    Scans text scanner.dropStaleKeys :=
  .ite (fun _ => trivial) fun _ => inText

theorem scans_dropKey (inText : scanner.cursor.IsIn text) : Scans text scanner.dropKey :=
  .ite (fun _ => trivial) fun _ => inText

theorem scans_noteKey (inText : scanner.cursor.IsIn text) : Scans text scanner.noteKey :=
  .ite (fun _ => inText) fun _ => (scans_dropKey inText).bind fun _ => id

theorem isIn_unwind (inText : scanner.cursor.IsIn text) (column : Int) :
    (scanner.unwind column).cursor.IsIn text := by
  unfold unwind
  split
  · exact inText
  · exact inText

theorem isIn_openBlock (inText : scanner.cursor.IsIn text) (column position : Nat) (token : Token) :
    (scanner.openBlock column position token).cursor.IsIn text := by
  unfold openBlock
  split
  · exact inText
  · exact inText

theorem scans_openBlockHere (inText : scanner.cursor.IsIn text) (token : Token) :
    Scans text (scanner.openBlockHere token) :=
  .ite (fun _ => inText) fun _ => .ite (fun _ => trivial) fun _ => isIn_openBlock inText _ _ token

/-! ## One token -/

theorem isIn_skipBetween {cursor : Cursor} (inText : cursor.IsIn text) (bound : Nat)
    (crossed : Bool) : (skipBetween bound crossed cursor).1.IsIn text := by
  induction bound generalizing crossed cursor with
  | zero => exact inText
  | succ bound induction =>
      rw [skipBetween]
      have afterComment := inText.skipSpaces.comment
      have afterBreak := afterComment.lineBreak
      split
      · exact afterComment
      · rename_i broken
        rw [broken] at afterBreak
        exact induction afterBreak _

theorem isIn_toNextToken (inText : scanner.cursor.IsIn text) :
    scanner.toNextToken.cursor.IsIn text := by
  have start : Cursor.IsIn text (if scanner.cursor.index = 0 && scanner.cursor.peek = '\ufeff' then
      scanner.cursor.advance else scanner.cursor) := by
    split
    · exact inText.advance
    · exact inText
  unfold toNextToken
  dsimp only
  exact isIn_skipBetween start _ false

theorem scans_takeWith {read : Cursor → Except Fault (Token × Cursor)}
    (reads : Reads text (read scanner.cursor)) : Scans text (scanner.takeWith read) :=
  Meets.bind reads fun _ => id

theorem scans_takeBoundary (inText : scanner.cursor.IsIn text) : Scans text scanner.takeBoundary :=
  (scans_dropKey (isIn_unwind inText (-1))).bind fun _ => id

theorem scans_takeFlowStart (inText : scanner.cursor.IsIn text) (token : Token) :
    Scans text (scanner.takeFlowStart token) :=
  (scans_noteKey inText).bind fun _ inText => inText.skip 1

theorem scans_takeFlowEnd (inText : scanner.cursor.IsIn text) (token : Token) :
    Scans text (scanner.takeFlowEnd token) :=
  (scans_dropKey inText).bind fun _ inText =>
    .ite (fun _ => inText.skip 1) fun _ => trivial

theorem scans_takeFlowEntry (inText : scanner.cursor.IsIn text) :
    Scans text scanner.takeFlowEntry :=
  Scans.bind (scans_dropKey inText) fun _ inText => inText.skip 1

theorem scans_takeBlockEntry (inText : scanner.cursor.IsIn text) :
    Scans text scanner.takeBlockEntry := by
  refine (scans_openBlockHere inText _).bind fun opened inText => ?_
  exact Scans.bind (scans_dropKey inText) fun _ inText => inText.skip 1

theorem scans_takeKey (inText : scanner.cursor.IsIn text) : Scans text scanner.takeKey := by
  refine (scans_openBlockHere inText _).bind fun opened inText => ?_
  exact Scans.bind (scans_dropKey inText) fun _ inText => inText.skip 1

theorem scans_takeValue (inText : scanner.cursor.IsIn text) : Scans text scanner.takeValue := by
  unfold takeValue
  split
  · refine Cursor.IsIn.skip ?_ 1
    dsimp only [allowKeys]
    split
    · exact inText
    · refine isIn_openBlock ?_ _ _ _
      exact inText
  · refine (scans_openBlockHere inText _).bind fun opened inText => ?_
    exact Scans.bind (scans_dropKey inText) fun _ inText => inText.skip 1

theorem scans_takeNamed {read : Cursor → Except Fault (Token × Cursor)}
    (inText : scanner.cursor.IsIn text)
    (reads : ∀ cursor : Cursor, cursor.IsIn text → Reads text (read cursor)) :
    Scans text (scanner.takeNamed read) :=
  (scans_noteKey inText).bind fun noted inText => scans_takeWith (reads noted.cursor inText)

theorem scans_takeBlockScalar (inText : scanner.cursor.IsIn text) (folded : Bool) :
    Scans text (scanner.takeBlockScalar folded) := by
  refine Scans.bind (scans_dropKey inText) fun dropped inText => ?_
  exact Meets.bind (reads_block folded _ inText) fun _ => id

theorem scans_takeQuoted (inText : scanner.cursor.IsIn text) (double : Bool) :
    Scans text (scanner.takeQuoted double) :=
  scans_takeNamed inText fun _ inText => (reads_quoted double inText).bind fun _ _ => id

theorem scans_takePlain (inText : scanner.cursor.IsIn text) : Scans text scanner.takePlain :=
  (scans_noteKey inText).bind fun _ inText => isIn_plain _ _ inText

theorem scans_step (inText : scanner.cursor.IsIn text) : Scans text scanner.step := by
  refine (scans_dropStaleKeys (isIn_toNextToken inText)).bind fun fresh inText => ?_
  have inText := isIn_unwind inText fresh.cursor.column
  have boundary := scans_takeBoundary inText
  refine .ite (fun _ => boundary.bind fun _ => id) fun _ => ?_
  refine .ite (fun _ => boundary.bind fun _ inText =>
    scans_takeWith (Token.reads_ofDirective inText)) fun _ => ?_
  refine .ite (fun _ => boundary.bind fun _ inText => inText.skip 3) fun _ => ?_
  refine .ite (fun _ => boundary.bind fun _ inText => inText.skip 3) fun _ => ?_
  refine .ite (fun _ => scans_takeFlowStart inText _) fun _ => ?_
  refine .ite (fun _ => scans_takeFlowStart inText _) fun _ => ?_
  refine .ite (fun _ => scans_takeFlowEnd inText _) fun _ => ?_
  refine .ite (fun _ => scans_takeFlowEnd inText _) fun _ => ?_
  refine .ite (fun _ => scans_takeFlowEntry inText) fun _ => ?_
  refine .ite (fun _ => scans_takeBlockEntry inText) fun _ => ?_
  refine .ite (fun _ => scans_takeKey inText) fun _ => ?_
  refine .ite (fun _ => scans_takeValue inText) fun _ => ?_
  refine .ite (fun _ => scans_takeNamed inText fun _ => Token.reads_ofAnchor _) fun _ => ?_
  refine .ite (fun _ => scans_takeNamed inText fun _ => Token.reads_ofAnchor _) fun _ => ?_
  refine .ite (fun _ => scans_takeNamed inText fun _ => Token.reads_ofTag) fun _ => ?_
  refine .ite (fun _ => scans_takeBlockScalar inText false) fun _ => ?_
  refine .ite (fun _ => scans_takeBlockScalar inText true) fun _ => ?_
  refine .ite (fun _ => scans_takeQuoted inText false) fun _ => ?_
  refine .ite (fun _ => scans_takeQuoted inText true) fun _ => ?_
  exact .ite (fun _ => scans_takePlain inText) fun _ => trivial

/-! ## The whole text -/

/-- A fault that ends a stream has its reason in the text. -/
theorem excuses_run (inText : scanner.cursor.IsIn text) (bound : Nat) :
    ∀ fault ∈ (run bound scanner).fault, Excuses (Blames text) fault := by
  induction bound generalizing scanner with
  | zero =>
      intro fault ends
      cases ends
      exact trivial
  | succ bound induction =>
      have scans := scans_step inText
      unfold run
      cases stepped : scanner.step with
      | error fault =>
          rw [stepped] at scans
          intro other ends
          cases ends
          exact scans
      | ok next =>
          rw [stepped] at scans
          dsimp only
          split
          · nofun
          · exact induction scans

end Scanner

theorem TokenStream.excuses_ofText (text : List Char) :
    ∀ fault ∈ (ofText text).fault, Excuses (Blames text) fault := by
  unfold ofText
  split
  · exact Scanner.excuses_run (Cursor.isIn_start text) _
  · intro fault ends
    cases ends
    exact trivial

end Steward.Yaml
