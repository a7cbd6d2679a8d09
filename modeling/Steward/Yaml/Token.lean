import Steward.Decimal.Reader
import Steward.Text.Utf8
import Steward.Yaml.Scalar

/-! Tokens of a YAML text, and the reading of those that are neither scalars nor single marks:
directives, anchors, aliases and tags. -/

namespace Steward.Yaml

/-- A token. The starts and ends of block collections come from indentation. A tag is a handle with
a suffix, or a whole name without handle. -/
inductive Token where
  | version (major : Nat)
  | handle (name start : String)
  | otherDirective
  | documentStart
  | documentEnd
  | streamEnd
  | blockSequenceStart
  | blockMappingStart
  | blockEnd
  | flowSequenceStart
  | flowSequenceEnd
  | flowMappingStart
  | flowMappingEnd
  | blockEntry
  | flowEntry
  | key
  | value
  | alias (name : String)
  | anchor (name : String)
  | tag (handle : Option String) (suffix : String)
  | scalar (isPlain : Bool) (text : Wording)
deriving DecidableEq, Repr

/-- The tokens of a text in the order in which they become known, and the fault that ends them where
the text cannot be read on. A fault does not matter to whoever finds another one in the tokens
before it. -/
structure TokenStream where
  tokens : List Token
  fault : Option Fault
deriving DecidableEq, Repr

namespace Token

open Cursor

/-! ## Names and tags -/

def isTagCharacter (character : Char) : Bool :=
  character.isAlphanum ||
    ['-', ';', '/', '?', ':', '@', '&', '=', '+', '$', ',', '_', '.', '!', '~', '*', '\'', '(',
      ')', '[', ']'].contains character

def escapedBytes : (bound : Nat) → (bytes : List UInt8) → Cursor →
    Except Fault (List UInt8 × Cursor)
  | 0, bytes, cursor => .ok (bytes, cursor)
  | bound + 1, bytes, cursor =>
      if cursor.peek ≠ '%' then .ok (bytes, cursor)
      else
        match Text.hexNumber? 2 0 cursor.advance.rest with
        | some byte => escapedBytes bound (bytes ++ [byte.toUInt8]) (cursor.skip 3)
        | none => .error .malformed

def tagText : (bound : Nat) → (text : List Char) → Cursor → Except Fault Read
  | 0, text, cursor => .ok (text, cursor)
  | bound + 1, text, cursor =>
      if isTagCharacter cursor.peek then tagText bound (text ++ [cursor.peek]) cursor.advance
      else if cursor.peek = '%' then do
        let (bytes, after) ← escapedBytes cursor.rest.length [] cursor
        match Text.Utf8.decode bytes with
        | .ok decoded => tagText bound (text ++ decoded.toList) after
        | .error _ => .error .malformed
      else .ok (text, cursor)

def requireTagText (cursor : Cursor) : Except Fault Read :=
  if isTagCharacter cursor.peek || cursor.peek = '%' then
    tagText (cursor.rest.length + 1) [] cursor
  else .error .malformed

/-- A handle: an exclamation mark alone before a space, or two with a name between them. -/
def tagHandle (cursor : Cursor) : Except Fault Read :=
  if cursor.peek ≠ '!' then .error .malformed
  else if cursor.peekAt 1 = ' ' then .ok (['!'], cursor.advance)
  else
    let (name, after) := cursor.advance.span isNameCharacter
    if after.peek = '!' then .ok ('!' :: name ++ ['!'], after.advance) else .error .malformed

def hasNamedHandle (rest : List Char) : Bool :=
  (rest.takeWhile (!isGap ·)).contains '!'

def ofTag (cursor : Cursor) : Except Fault (Token × Cursor) := do
  let (token, after) ←
    if cursor.peekAt 1 = '<' then do
      let (suffix, after) ← requireTagText (cursor.skip 2)
      if after.peek = '>' then pure (tag none (String.ofList suffix), after.advance)
      else Except.error Fault.malformed
    else if isSeparator (cursor.peekAt 1) then pure (tag none "!", cursor.advance)
    else do
      let (name, afterName) ←
        if hasNamedHandle (cursor.rest.drop 1) then tagHandle cursor
        else pure (['!'], cursor.advance)
      let (suffix, after) ← requireTagText afterName
      pure (tag (some (String.ofList name)) (String.ofList suffix), after)
  if isGap after.peek then return (token, after) else .error .malformed

def endsAnchor (character : Char) : Bool :=
  isSeparator character ||
    ['?', ':', ',', ']', '\x7d', '%', '@', '\x60'].contains character

def ofAnchor (make : String → Token) (cursor : Cursor) : Except Fault (Token × Cursor) :=
  let (name, after) := cursor.advance.span isNameCharacter
  if name.isEmpty || !endsAnchor after.peek then .error .malformed
  else .ok (make (String.ofList name), after)

/-! ## Directives -/

def digits (cursor : Cursor) : Except Fault (Nat × Cursor) :=
  let (read, after) := cursor.span Char.isDigit
  if read.isEmpty then .error .malformed
  else if Decimal.greatestLength < read.length then .error (.value (.digitCount read.length))
  else .ok (Decimal.valueOf read, after)

def versionDirective (cursor : Cursor) : Except Fault (Token × Cursor) := do
  let (major, afterMajor) ← digits cursor.skipSpaces
  if afterMajor.peek ≠ '.' then .error .malformed
  let (_, after) ← digits afterMajor.advance
  if isGap after.peek then return (version major, after) else .error .malformed

def handleDirective (cursor : Cursor) : Except Fault (Token × Cursor) := do
  let (name, afterName) ← tagHandle cursor.skipSpaces
  if afterName.peek ≠ ' ' then .error .malformed
  let (start, after) ← requireTagText afterName.skipSpaces
  if isGap after.peek then return (handle (String.ofList name) (String.ofList start), after)
  else .error .malformed

def ofDirective (cursor : Cursor) : Except Fault (Token × Cursor) := do
  let (name, afterName) := cursor.advance.span isNameCharacter
  if name.isEmpty || !isGap afterName.peek then .error .malformed
  let (token, after) ←
    if name = ['Y', 'A', 'M', 'L'] then versionDirective afterName
    else if name = ['T', 'A', 'G'] then handleDirective afterName
    else pure (otherDirective, afterName.skipWhile (!isLineEnd ·))
  match after.finishLine with
  | some next => return (token, next)
  | none => .error .malformed

end Token

end Steward.Yaml
