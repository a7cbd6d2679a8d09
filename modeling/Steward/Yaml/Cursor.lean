/-! A place in a YAML text: the characters still to come, and the line and column they start at. -/

namespace Steward.Yaml

/-! ## Classes of characters -/

/-- What stands for the end of the text; no text contains it. -/
def endMark : Char := '\x00'

def isPrintable (character : Char) : Bool :=
  let code := character.toNat
  code = 0x09 || code = 0x0a || code = 0x0d || (0x20 ≤ code && code ≤ 0x7e) || code = 0x85 ||
    (0xa0 ≤ code && code ≤ 0xd7ff) || (0xe000 ≤ code && code ≤ 0xfffd) || 0x10000 ≤ code

def isBreak (character : Char) : Bool :=
  character = '\n' || character = '\r' || character = '\u0085' || character = '\u2028' ||
    character = '\u2029'

def isLineEnd (character : Char) : Bool := isBreak character || character = endMark

def isGap (character : Char) : Bool := character = ' ' || isLineEnd character

def isSeparator (character : Char) : Bool := character = '\t' || isGap character

def isFlowIndicator (character : Char) : Bool :=
  character = ',' || character = '[' || character = ']' || character = '\x7b' ||
    character = '\x7d'

def isNameCharacter (character : Char) : Bool :=
  character.isAlphanum || character = '-' || character = '_'

/-! ## Cursors -/

structure Cursor where
  rest : List Char
  index : Nat
  line : Nat
  column : Nat

namespace Cursor

def start (text : List Char) : Cursor := ⟨text, 0, 0, 0⟩

def peek (cursor : Cursor) : Char := cursor.rest.headD endMark

def peekAt (cursor : Cursor) (distance : Nat) : Char := (cursor.rest.drop distance).headD endMark

/-- Whether a character is the last of its line: a carriage return before a line feed is not. -/
def endsLine (character : Char) (rest : List Char) : Bool :=
  isBreak character && !(character = '\r' && rest.head? == some '\n')

def advance (cursor : Cursor) : Cursor :=
  match cursor.rest with
  | [] => cursor
  | character :: rest =>
      if endsLine character rest then ⟨rest, cursor.index + 1, cursor.line + 1, 0⟩
      else
        let width := if character = '\ufeff' then 0 else 1
        ⟨rest, cursor.index + 1, cursor.line, cursor.column + width⟩

def skip (cursor : Cursor) : Nat → Cursor
  | 0 => cursor
  | count + 1 => cursor.advance.skip count

def span (cursor : Cursor) (test : Char → Bool) : List Char × Cursor :=
  let taken := cursor.rest.takeWhile test
  (taken, cursor.skip taken.length)

def skipWhile (cursor : Cursor) (test : Char → Bool) : Cursor := (cursor.span test).2

def skipSpaces (cursor : Cursor) : Cursor := cursor.skipWhile (· = ' ')

/-- The line break in front, if there is one. All but the line and paragraph separators become line
feeds. -/
def lineBreak (cursor : Cursor) : List Char × Cursor :=
  match cursor.rest with
  | '\r' :: '\n' :: _ => (['\n'], cursor.skip 2)
  | character :: _ =>
      if character = '\u2028' || character = '\u2029' then ([character], cursor.advance)
      else if isBreak character then (['\n'], cursor.advance)
      else ([], cursor)
  | [] => ([], cursor)

/-- Whether three dashes or three points by themselves are in front. -/
def atMark (cursor : Cursor) (mark : Char) : Bool :=
  cursor.peek = mark && cursor.peekAt 1 = mark && cursor.peekAt 2 = mark &&
    isSeparator (cursor.peekAt 3)

def atDocumentMark (cursor : Cursor) : Bool := cursor.atMark '-' || cursor.atMark '.'

/-- What is left of a line after its last token: spaces, a comment, the break. `none` where anything
else stands there. -/
def finishLine (cursor : Cursor) : Option Cursor :=
  let cursor := cursor.skipSpaces
  let cursor := if cursor.peek = '#' then cursor.skipWhile (!isLineEnd ·) else cursor
  if isLineEnd cursor.peek then some cursor.lineBreak.2 else none

end Cursor

end Steward.Yaml
