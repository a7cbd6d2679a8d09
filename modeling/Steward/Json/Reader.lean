import Steward.Decimal.Reader
import Steward.Json.Value
import Steward.Text.Hex

/-! Reading a JSON text. Besides the standard's values the words `NaN`, `Infinity` and `-Infinity`
are read as numbers. A text that is no JSON is refused with the first place where reading cannot go
on. -/

namespace Steward.Json

/-! ## Faults -/

inductive ReadFault.Reason where
  | value
  | propertyName
  | colon
  | comma
  | unterminated
  | control
  | escapeMark
  | unicodeEscape
  | extra
  | byteOrderMark
  | digitCount (count : Nat)
  | listNesting
  | objectNesting
deriving DecidableEq, Repr

/-- Why a text is no JSON, and where: `line` and `column` count from one, `offset` from zero. -/
structure ReadFault where
  reason : ReadFault.Reason
  line : Nat
  column : Nat
  offset : Nat
deriving DecidableEq, Repr

def ReadFault.Reason.message : ReadFault.Reason → String
  | .value => "Expecting value"
  | .propertyName => "Expecting property name enclosed in double quotes"
  | .colon => "Expecting ':' delimiter"
  | .comma => "Expecting ',' delimiter"
  | .unterminated => "Unterminated string starting at"
  | .control => "Invalid control character at"
  | .escapeMark => "Invalid \\escape"
  | .unicodeEscape => "Invalid \\uXXXX escape"
  | .extra => "Extra data"
  | .byteOrderMark => "Unexpected UTF-8 BOM (decode using utf-8-sig)"
  | .digitCount count => Decimal.lengthMessage count
  | .listNesting =>
      "maximum recursion depth exceeded while decoding a JSON array from a unicode string"
  | .objectNesting =>
      "maximum recursion depth exceeded while decoding a JSON object from a unicode string"

def ReadFault.Reason.isNesting : ReadFault.Reason → Bool
  | .listNesting | .objectNesting => true
  | _ => false

def ReadFault.Reason.isPlaced : ReadFault.Reason → Bool
  | .digitCount _ => false
  | reason => !reason.isNesting

def ReadFault.message (fault : ReadFault) : String :=
  if fault.reason.isPlaced then
    s!"{fault.reason.message}: line {fault.line} column {fault.column} (char {fault.offset})"
  else fault.reason.message

structure Stop where
  reason : ReadFault.Reason
  rest : List Char

def Stop.fault (text : List Char) (stop : Stop) : ReadFault :=
  let offset := text.length - stop.rest.length
  let before := text.take offset
  let line := before.count '\n' + 1
  let column := (before.reverse.takeWhile (· ≠ '\n')).length + 1
  ⟨stop.reason, line, column, offset⟩

/-! ## Lexical parts -/

def isSpace (character : Char) : Bool :=
  character = ' ' || character = '\t' || character = '\n' || character = '\r'

def skipSpaces (rest : List Char) : List Char := rest.dropWhile isSpace

def escaped (character : Char) : Option Char :=
  match character with
  | '"' => some '"'
  | '\\' => some '\\'
  | '/' => some '/'
  | 'b' => some '\x08'
  | 'f' => some '\x0c'
  | 'n' => some '\n'
  | 'r' => some '\r'
  | 't' => some '\t'
  | _ => none

/-- Reads a text up to its closing quote. `start` begins with the opening quote and tells where an
unterminated text starts; `before` holds what has been read, last first. -/
def readText (start : List Char) (before : List Nat) :
    List Char → Except Stop (Wording × List Char)
  | [] => .error ⟨.unterminated, start⟩
  | '"' :: rest => .ok (.ofUnits before.reverse, rest)
  | ['\\'] => .error ⟨.unterminated, start⟩
  | '\\' :: 'u' :: first :: second :: third :: fourth :: rest =>
      match Text.hexNumber? 4 0 [first, second, third, fourth] with
      | none => .error ⟨.unicodeEscape, 'u' :: first :: second :: third :: fourth :: rest⟩
      | some unit =>
          if rest.isEmpty then
            .error ⟨.unicodeEscape, 'u' :: first :: second :: third :: fourth :: rest⟩
          else readText start (unit :: before) rest
  | '\\' :: 'u' :: rest => .error ⟨.unicodeEscape, 'u' :: rest⟩
  | '\\' :: mark :: rest =>
      match escaped mark with
      | some character => readText start (character.toNat :: before) rest
      | none => .error ⟨.escapeMark, '\\' :: mark :: rest⟩
  | character :: rest =>
      if character.toNat < 0x20 then .error ⟨.control, character :: rest⟩
      else readText start (character.toNat :: before) rest

def readFraction : List Char → List Char × List Char
  | '.' :: digit :: rest =>
      if digit.isDigit then
        (digit :: rest.takeWhile Char.isDigit, rest.dropWhile Char.isDigit)
      else ([], '.' :: digit :: rest)
  | rest => ([], rest)

def readExponent : List Char → Option Int × List Char
  | mark :: rest =>
      if mark = 'e' || mark = 'E' then
        let negative := rest.head? == some '-'
        let unsigned := if negative || rest.head? == some '+' then rest.drop 1 else rest
        let digits := unsigned.takeWhile Char.isDigit
        if digits.isEmpty then (none, mark :: rest)
        else
          let value : Int := Decimal.valueOf digits
          (some (if negative then -value else value), unsigned.dropWhile Char.isDigit)
      else (none, mark :: rest)
  | [] => (none, [])

/-- A numeral, if the text starts with one. A leading zero is a numeral of its own. -/
def readNumber (rest : List Char) : Except Stop (Json × List Char) :=
  let negative := rest.head? == some '-'
  let unsigned := if negative then rest.drop 1 else rest
  match unsigned with
  | [] => .error ⟨.value, rest⟩
  | digit :: after =>
      if !digit.isDigit then .error ⟨.value, rest⟩
      else
        let whole := if digit = '0' then ['0'] else digit :: after.takeWhile Char.isDigit
        let afterWhole := if digit = '0' then after else after.dropWhile Char.isDigit
        let (fraction, afterFraction) := readFraction afterWhole
        let (exponent, afterNumber) := readExponent afterFraction
        if fraction.isEmpty && exponent.isNone then
          let value : Int := Decimal.valueOf whole
          if Decimal.greatestLength < whole.length then .error ⟨.digitCount whole.length, rest⟩
          else .ok (.integer (if negative then -value else value), afterNumber)
        else
          let power : Int := exponent.getD 0 - fraction.length
          .ok (.real (.ofDecimal negative (Decimal.valueOf (whole ++ fraction)) power), afterNumber)

/-! ## Values -/

def words : List (List Char × Json) :=
  [(['n', 'u', 'l', 'l'], .null),
   (['t', 'r', 'u', 'e'], .bool true),
   (['f', 'a', 'l', 's', 'e'], .bool false),
   (['N', 'a', 'N'], .real .nan),
   (['I', 'n', 'f', 'i', 'n', 'i', 't', 'y'], .real (.infinite false)),
   (['-', 'I', 'n', 'f', 'i', 'n', 'i', 't', 'y'], .real (.infinite true))]

def readWord (rest : List Char) : Option (Json × List Char) :=
  (words.find? fun word => word.1.isPrefixOf rest).map fun word =>
    (word.2, rest.drop word.1.length)

def readScalar (rest : List Char) : Except Stop (Json × List Char) :=
  match rest with
  | '"' :: after => do
      let (value, remaining) ← readText rest [] after
      return (.text value, remaining)
  | _ =>
      match readWord rest with
      | some found => .ok found
      | none => readNumber rest

def readName (rest : List Char) : Except Stop (Wording × List Char) :=
  match rest with
  | '"' :: after => do
      let (name, remaining) ← readText rest [] after
      match skipSpaces remaining with
      | ':' :: value => return (name, skipSpaces value)
      | other => .error ⟨.colon, other⟩
  | _ => .error ⟨.propertyName, rest⟩

def greatestDepth : Nat := 988

mutual
/-- Reads one value, in which there may be `room` lists and objects within each other. Each step
into a value uses up one of `bound`, and at least every other step a character of the text. -/
def readValue : (bound room : Nat) → List Char → Except Stop (Json × List Char)
  | 0, _, rest => .error ⟨.value, rest⟩
  | _ + 1, 0, '[' :: rest => .error ⟨.listNesting, rest⟩
  | _ + 1, 0, '\x7b' :: rest => .error ⟨.objectNesting, rest⟩
  | bound + 1, room + 1, '[' :: rest =>
      match skipSpaces rest with
      | ']' :: after => .ok (.list [], after)
      | items => do
          let (values, after) ← readItems bound room [] items
          return (.list values, after)
  | bound + 1, room + 1, '\x7b' :: rest =>
      match skipSpaces rest with
      | '\x7d' :: after => .ok (.object [], after)
      | members => do
          let (entries, after) ← readMembers bound room [] members
          return (ofMembers entries, after)
  | _ + 1, _, rest => readScalar rest

def readItems : (bound room : Nat) → List Json → List Char → Except Stop (List Json × List Char)
  | 0, _, _, rest => .error ⟨.value, rest⟩
  | bound + 1, room, before, rest => do
      let (value, after) ← readValue bound room rest
      match skipSpaces after with
      | ']' :: remaining => return ((value :: before).reverse, remaining)
      | ',' :: remaining => readItems bound room (value :: before) (skipSpaces remaining)
      | other => .error ⟨.comma, other⟩

def readMembers : (bound room : Nat) → List (Wording × Json) → List Char →
    Except Stop (List (Wording × Json) × List Char)
  | 0, _, _, rest => .error ⟨.value, rest⟩
  | bound + 1, room, before, rest => do
      let (name, start) ← readName rest
      let (value, after) ← readValue bound room start
      match skipSpaces after with
      | '\x7d' :: remaining => return (((name, value) :: before).reverse, remaining)
      | ',' :: remaining =>
          readMembers bound room ((name, value) :: before) (skipSpaces remaining)
      | other => .error ⟨.comma, other⟩
end

def readDocument (text : List Char) : Except Stop Json := do
  if text.head? == some '\ufeff' then .error ⟨.byteOrderMark, text⟩
  let (value, after) ← readValue (2 * text.length + 2) greatestDepth (skipSpaces text)
  match skipSpaces after with
  | [] => return value
  | rest => .error ⟨.extra, rest⟩

def read (text : String) : Except ReadFault Json :=
  (readDocument text.toList).mapError (Stop.fault text.toList)

end Steward.Json
