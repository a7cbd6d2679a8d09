import Steward.Text.Hex
import Steward.Wording
import Steward.Yaml.Cursor
import Steward.Yaml.Fault

/-! The five ways to write a scalar: plain, in single or double quotes, and as a literal or folded
block. Each function starts at the scalar and ends after it. The count that bounds a loop is at
least the length of the text in front of the cursor. -/

namespace Steward.Yaml

open Cursor

abbrev Read := List Char × Cursor

/-- A break within a scalar that spans lines: a single line feed becomes a space. -/
def foldBreak (lineBreak breaks : List Char) : List Char :=
  if lineBreak ≠ ['\n'] then lineBreak ++ breaks
  else if breaks.isEmpty then [' ']
  else breaks

/-! ## Plain scalars -/

def endsPlain (inFlow : Bool) (character next : Char) : Bool :=
  isSeparator character ||
    (character = ':' && (isSeparator next || (inFlow && isFlowIndicator next))) ||
    (inFlow && (character = '?' || isFlowIndicator character))

def plainRun (inFlow : Bool) : List Char → List Char
  | [] => []
  | character :: rest =>
      if endsPlain inFlow character (rest.headD endMark) then []
      else character :: plainRun inFlow rest

def plainBreaks : (bound : Nat) → (breaks : List Char) → Cursor → Option (List Char) × Cursor
  | 0, breaks, cursor => (some breaks, cursor)
  | bound + 1, breaks, cursor =>
      if cursor.peek = ' ' then plainBreaks bound breaks cursor.advance
      else
        match cursor.lineBreak with
        | ([], _) => (some breaks, cursor)
        | (lineBreak, after) =>
            if after.atDocumentMark then (none, after)
            else plainBreaks bound (breaks ++ lineBreak) after

def plainBlanks (cursor : Cursor) : List Char × Cursor × Bool :=
  let (spaces, after) := cursor.span (· = ' ')
  match after.lineBreak with
  | ([], _) => (spaces, after, false)
  | (lineBreak, next) =>
      if next.atDocumentMark then ([], next, true)
      else
        match plainBreaks next.rest.length [] next with
        | (none, final) => ([], final, true)
        | (some breaks, final) => (foldBreak lineBreak breaks, final, true)

structure Plain where
  text : List Char
  cursor : Cursor
  /-- Whether the blanks after the scalar hold a line break. -/
  crossed : Bool

/-- Reads on, where `before` is the scalar so far, last character first, and `blanks` what separates
it from the cursor. -/
def plainFrom (inFlow : Bool) (indent : Int) :
    (bound : Nat) → (before blanks : List Char) → Cursor → Plain
  | 0, before, _, cursor => ⟨before.reverse, cursor, false⟩
  | bound + 1, before, blanks, cursor =>
      let run := plainRun inFlow cursor.rest
      let before := run.reverse ++ (blanks.reverse ++ before)
      let (next, after, crossed) := plainBlanks (cursor.skip run.length)
      if next.isEmpty || after.peek = '#' || (!inFlow && (after.column : Int) < indent) ||
          (plainRun inFlow after.rest).isEmpty then
        ⟨before.reverse, after, crossed⟩
      else plainFrom inFlow indent bound before next after

def plain (inFlow : Bool) (indent : Int) (cursor : Cursor) : Plain :=
  plainFrom inFlow indent cursor.rest.length [] [] cursor

/-! ## Quoted scalars -/

def escaped (mark : Char) : Option Char :=
  match mark with
  | '0' => some '\x00'
  | 'a' => some '\x07'
  | 'b' => some '\x08'
  | 't' => some '\t'
  | '\t' => some '\t'
  | 'n' => some '\n'
  | 'v' => some '\x0b'
  | 'f' => some '\x0c'
  | 'r' => some '\r'
  | 'e' => some '\x1b'
  | ' ' => some ' '
  | '"' => some '"'
  | '\\' => some '\\'
  | '/' => some '/'
  | 'N' => some '\u0085'
  | '_' => some '\u00a0'
  | 'L' => some '\u2028'
  | 'P' => some '\u2029'
  | _ => none

def escapeWidth (mark : Char) : Option Nat :=
  match mark with
  | 'x' => some 2
  | 'u' => some 4
  | 'U' => some 8
  | _ => none

/-- What a quoted scalar holds so far. Escapes may stand for surrogates, and two of them stay
two. -/
abbrev ReadPoints := List Text.CodePoint × Cursor

def points (text : List Char) : List Text.CodePoint := text.map .character

def codePoint (code : Nat) : Except Fault Text.CodePoint :=
  if 0x110000 ≤ code then .error (.value (.character code)) else .ok (.ofUnit code)

def quotedBreaks : (bound : Nat) → (breaks : List Char) → Cursor → Except Fault Read
  | 0, breaks, cursor => .ok (breaks, cursor)
  | bound + 1, breaks, cursor =>
      if cursor.atDocumentMark then .error .malformed
      else
        let cursor := cursor.skipWhile fun character => character = ' ' || character = '\t'
        match cursor.lineBreak with
        | ([], _) => .ok (breaks, cursor)
        | (lineBreak, after) => quotedBreaks bound (breaks ++ lineBreak) after

def quotedBlanks (cursor : Cursor) : Except Fault Read := do
  let (blanks, after) := cursor.span fun character => character = ' ' || character = '\t'
  if after.rest.isEmpty then .error .malformed
  match after.lineBreak with
  | ([], _) => return (blanks, after)
  | (lineBreak, next) =>
      let (breaks, final) ← quotedBreaks (next.rest.length + 1) [] next
      return (foldBreak lineBreak breaks, final)

def quotedEscape (cursor : Cursor) : Except Fault ReadPoints :=
  let mark := cursor.peek
  match escaped mark, escapeWidth mark with
  | some character, _ => .ok (points [character], cursor.advance)
  | none, some width => do
      let digits := cursor.advance
      match Text.hexNumber? width 0 digits.rest with
      | some code => return ([← codePoint code], digits.skip width)
      | none => .error .malformed
  | none, none =>
      if isBreak mark then do
        let after := cursor.lineBreak.2
        let (breaks, next) ← quotedBreaks (after.rest.length + 1) [] after
        return (points breaks, next)
      else .error .malformed

/-- The part of a quoted scalar up to the next blank or the closing quote, in front of which
`before` has been read, last code point first. -/
def quotedRun (double : Bool) :
    (bound : Nat) → (before : List Text.CodePoint) → Cursor → Except Fault ReadPoints
  | 0, before, cursor => .ok (before, cursor)
  | bound + 1, before, cursor =>
      let mark := cursor.peek
      if isSeparator mark then .ok (before, cursor)
      else if double && mark = '\\' then do
        let (read, after) ← quotedEscape cursor.advance
        quotedRun double bound (read.reverse ++ before) after
      else if double && mark = '"' then .ok (before, cursor)
      else if !double && mark = '\'' then
        if cursor.peekAt 1 = '\'' then
          quotedRun double bound (.character mark :: before) (cursor.skip 2)
        else .ok (before, cursor)
      else quotedRun double bound (.character mark :: before) cursor.advance

def quotedFrom (double : Bool) :
    (bound : Nat) → (before : List Text.CodePoint) → Cursor → Except Fault ReadPoints
  | 0, _, _ => .error .malformed
  | bound + 1, before, cursor => do
      let (before, after) ← quotedRun double bound before cursor
      if after.peek = (if double then '"' else '\'') then return (before, after.advance)
      let (blanks, next) ← quotedBlanks after
      quotedFrom double bound ((points blanks).reverse ++ before) next

def quoted (double : Bool) (cursor : Cursor) : Except Fault (Wording × Cursor) := do
  let (read, after) ← quotedFrom double (cursor.rest.length + 1) [] cursor.advance
  return (.ofPoints read.reverse, after)

/-! ## Block scalars -/

/-- What becomes of the line breaks at the end of a block. -/
inductive Chomping where
  | strip
  | clip
  | keep
deriving DecidableEq

def chomping? (character : Char) : Option Chomping :=
  if character = '+' then some .keep
  else if character = '-' then some .strip
  else none

def blockHeader (cursor : Cursor) : Except Fault (Chomping × Option Nat × Cursor) := do
  let (chomping, afterChomping) := match chomping? cursor.peek with
    | some chomping => (some chomping, cursor.advance)
    | none => (none, cursor)
  let (increment, afterIncrement) ←
    if afterChomping.peek.isDigit then
      if afterChomping.peek = '0' then Except.error Fault.malformed
      else pure (some (afterChomping.peek.toNat - 48), afterChomping.advance)
    else pure (none, afterChomping)
  let (chomping, after) := match chomping, increment, chomping? afterIncrement.peek with
    | none, some _, some late => (late, afterIncrement.advance)
    | early, _, _ => (early.getD .clip, afterIncrement)
  if !isGap after.peek then .error .malformed
  match after.finishLine with
  | some next => return (chomping, increment, next)
  | none => .error .malformed

/-- The empty lines before a block of unknown indentation, and the greatest indentation among them
and its first line. -/
def blockIndentation : (bound : Nat) → (breaks : List Char) → (greatest : Nat) → Cursor →
    List Char × Nat × Cursor
  | 0, breaks, greatest, cursor => (breaks, greatest, cursor)
  | bound + 1, breaks, greatest, cursor =>
      if cursor.peek = ' ' then
        let after := cursor.advance
        blockIndentation bound breaks (max greatest after.column) after
      else
        match cursor.lineBreak with
        | ([], _) => (breaks, greatest, cursor)
        | (lineBreak, after) => blockIndentation bound (breaks ++ lineBreak) greatest after

def skipIndentation (indent : Nat) (cursor : Cursor) : Cursor :=
  let spaces := (cursor.rest.takeWhile (· = ' ')).length
  cursor.skip (min spaces (indent - cursor.column))

def blockBreaks (indent : Nat) : (bound : Nat) → (breaks : List Char) → Cursor → Read
  | 0, breaks, cursor => (breaks, cursor)
  | bound + 1, breaks, cursor =>
      let cursor := skipIndentation indent cursor
      match cursor.lineBreak with
      | ([], _) => (breaks, cursor)
      | (lineBreak, after) => blockBreaks indent bound (breaks ++ lineBreak) after

def startsBlank (cursor : Cursor) : Bool := cursor.peek = ' ' || cursor.peek = '\t'

def chomp (chomping : Chomping) (lineBreak breaks : List Char) : List Char :=
  match chomping with
  | .strip => []
  | .clip => lineBreak
  | .keep => lineBreak ++ breaks

/-- Reads the lines of a block, where `before` is the text so far, last character first, and
`breaks` are the empty lines in front of the cursor. -/
def blockLines (folded : Bool) (chomping : Chomping) (indent : Nat) :
    (bound : Nat) → (before lineBreak breaks : List Char) → Cursor → Read
  | 0, before, _, _, cursor => (before.reverse, cursor)
  | bound + 1, before, lineBreak, breaks, cursor =>
      if cursor.column ≠ indent || cursor.rest.isEmpty then
        (before.reverse ++ chomp chomping lineBreak breaks, cursor)
      else
        let (line, afterLine) := cursor.span (!isLineEnd ·)
        let before := line.reverse ++ (breaks.reverse ++ before)
        let (lineBreak, afterBreak) := afterLine.lineBreak
        let (breaks, next) := blockBreaks indent bound [] afterBreak
        if next.column ≠ indent || next.rest.isEmpty then
          (before.reverse ++ chomp chomping lineBreak breaks, next)
        else
          let joined :=
            if folded && lineBreak = ['\n'] && !startsBlank cursor && !startsBlank next then
              if breaks.isEmpty then [' '] else []
            else lineBreak
          blockLines folded chomping indent bound (joined.reverse ++ before) lineBreak breaks next

def block (folded : Bool) (parent : Int) (cursor : Cursor) : Except Fault Read := do
  let (chomping, increment, start) ← blockHeader cursor.advance
  let least := (max (parent + 1) 1).toNat
  match increment with
  | some increment =>
      let indent := least + increment - 1
      let (breaks, first) := blockBreaks indent (start.rest.length + 1) [] start
      return blockLines folded chomping indent (first.rest.length + 1) [] [] breaks first
  | none =>
      let (breaks, greatest, first) := blockIndentation (start.rest.length + 1) [] 0 start
      let indent := max least greatest
      return blockLines folded chomping indent (first.rest.length + 1) [] [] breaks first

end Steward.Yaml
