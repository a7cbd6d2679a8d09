import Steward.Decimal.Reader
import Steward.Text.Lines

/-! Tags of YAML nodes, and the tag that a scalar has by its look alone. -/

namespace Steward.Yaml

inductive Tag where
  | null
  | truth
  | integer
  | real
  | timestamp
  | binary
  | text
  | sequence
  | orderedMapping
  | pairs
  | mapping
  | set
  | merge
  | value
  | other
deriving DecidableEq, Repr

namespace Tag

def isScalar : Tag → Bool
  | .null | .truth | .integer | .real | .timestamp | .binary | .text => true
  | _ => false

def standardStart : String := "tag:yaml.org,2002:"

def ofName (name : String) : Tag :=
  if name = standardStart ++ "null" then .null
  else if name = standardStart ++ "bool" then .truth
  else if name = standardStart ++ "int" then .integer
  else if name = standardStart ++ "float" then .real
  else if name = standardStart ++ "timestamp" then .timestamp
  else if name = standardStart ++ "binary" then .binary
  else if name = standardStart ++ "str" then .text
  else if name = standardStart ++ "seq" then .sequence
  else if name = standardStart ++ "omap" then .orderedMapping
  else if name = standardStart ++ "pairs" then .pairs
  else if name = standardStart ++ "map" then .mapping
  else if name = standardStart ++ "set" then .set
  else if name = standardStart ++ "merge" then .merge
  else if name = standardStart ++ "value" then .value
  else .other

/-! ## Looks -/

def isDigitOrBar (character : Char) : Bool := character.isDigit || character = '_'

def isCount : List Char → Bool
  | [] => false
  | first :: rest => first.isDigit && rest.all isDigitOrBar

def isSixtieth : List Char → Bool
  | [digit] => digit.isDigit
  | [ten, digit] => '0' ≤ ten && ten ≤ '5' && digit.isDigit
  | _ => false

def isBinaryOrBar (character : Char) : Bool :=
  character = '0' || character = '1' || character = '_'

def isOctalOrBar (character : Char) : Bool :=
  ('0' ≤ character && character ≤ '7') || character = '_'

def isHexOrBar (character : Char) : Bool :=
  isDigitOrBar character || ('a' ≤ character && character ≤ 'f') ||
    ('A' ≤ character && character ≤ 'F')

/-- Integers are binary after `0b`, hexadecimal after `0x`, octal after a zero, decimal, or to base
sixty with colons. -/
def looksInteger (characters : List Char) : Bool :=
  match Decimal.unsigned characters with
  | ['0'] => true
  | '0' :: 'b' :: rest => !rest.isEmpty && rest.all isBinaryOrBar
  | '0' :: 'x' :: rest => !rest.isEmpty && rest.all isHexOrBar
  | '0' :: rest => rest.all isOctalOrBar
  | decimal =>
      match Text.pieces ':' decimal with
      | first :: sixtieths => isCount first && sixtieths.all isSixtieth
      | [] => false

def isExponent : List Char → Bool
  | [] => true
  | mark :: sign :: digits =>
      (mark = 'e' || mark = 'E') && (sign = '+' || sign = '-') && !digits.isEmpty &&
        digits.all Char.isDigit
  | [_] => false

def isFraction (characters : List Char) : Bool :=
  isExponent (characters.dropWhile isDigitOrBar)

def isInfinity (characters : List Char) : Bool :=
  characters = ['.', 'i', 'n', 'f'] || characters = ['.', 'I', 'n', 'f'] ||
    characters = ['.', 'I', 'N', 'F']

def isNotANumber (characters : List Char) : Bool :=
  characters = ['.', 'n', 'a', 'n'] || characters = ['.', 'N', 'a', 'N'] ||
    characters = ['.', 'N', 'A', 'N']

/-- Binary numbers have a point, with digits in front of it, in base ten or sixty, or behind it. -/
def looksReal (characters : List Char) : Bool :=
  let bare := Decimal.unsigned characters
  let whole := bare.takeWhile (· ≠ '.')
  let fraction := bare.drop (whole.length + 1)
  isNotANumber characters || isInfinity bare ||
    (whole.length < bare.length &&
      (match Text.pieces ':' whole with
       | [[]] =>
           characters.head? == some '.' && isCount (fraction.takeWhile isDigitOrBar) &&
             isFraction fraction
       | [decimal] => isCount decimal && isFraction fraction
       | first :: sixtieths =>
           isCount first && sixtieths.all isSixtieth && fraction.all isDigitOrBar
       | [] => false))

def truths : List String :=
  ["yes", "Yes", "YES", "no", "No", "NO", "true", "True", "TRUE", "false", "False", "FALSE", "on",
    "On", "ON", "off", "Off", "OFF"]

def nulls : List String := ["~", "null", "Null", "NULL"]

def reserved : List String := ["!", "&", "*"]

end Tag

/-! ## Points in time -/

structure TimeOfDay where
  hour : Nat
  minute : Nat
  second : Nat
  /-- Sign and size of the offset. -/
  offset : Option (Bool × Nat)
deriving DecidableEq, Repr

structure Timestamp where
  year : Nat
  month : Nat
  day : Nat
  time : Option TimeOfDay
deriving DecidableEq, Repr

namespace Timestamp

def number (least most : Nat) (characters : List Char) : Option (Nat × List Char) :=
  let digits := (characters.take most).takeWhile Char.isDigit
  if digits.length < least then none
  else some (Decimal.valueOf digits, characters.drop digits.length)

def after (mark : Char) : List Char → Option (List Char)
  | [] => none
  | character :: rest => if character = mark then some rest else none

def skipBlanks (characters : List Char) : List Char :=
  characters.dropWhile fun character => character = ' ' || character = '\t'

def zone (characters : List Char) : Option (Option (Bool × Nat)) :=
  match characters with
  | [] => some none
  | _ =>
      match skipBlanks characters with
      | ['Z'] => some none
      | sign :: rest =>
          if sign = '+' || sign = '-' then do
            let (hours, rest) ← number 1 2 rest
            if rest.isEmpty then return some (sign = '-', hours * 60)
            let (minutes, rest) ← number 2 2 (← after ':' rest)
            if rest.isEmpty then return some (sign = '-', hours * 60 + minutes) else none
          else none
      | [] => none

def timeOfDay (characters : List Char) : Option TimeOfDay := do
  let start ← match characters with
    | 'T' :: rest => some rest
    | 't' :: rest => some rest
    | ' ' :: rest => some (skipBlanks rest)
    | '\t' :: rest => some (skipBlanks rest)
    | _ => none
  let (hour, rest) ← number 1 2 start
  let (minute, rest) ← number 2 2 (← after ':' rest)
  let (second, rest) ← number 2 2 (← after ':' rest)
  let rest := match rest with
    | '.' :: fraction => fraction.dropWhile Char.isDigit
    | _ => rest
  return ⟨hour, minute, second, ← zone rest⟩

def ofCharacters (characters : List Char) : Option Timestamp := do
  let (year, rest) ← number 4 4 characters
  let (month, rest) ← number 1 2 (← after '-' rest)
  let (day, rest) ← number 1 2 (← after '-' rest)
  if rest.isEmpty then return ⟨year, month, day, none⟩
  return ⟨year, month, day, some (← timeOfDay rest)⟩

/-- A date by itself looks like one only with two digits for the month and for the day. -/
def looksLike (characters : List Char) : Bool :=
  match ofCharacters characters with
  | some timestamp => timestamp.time.isSome || characters.length = 10
  | none => false

end Timestamp

/-- The tag of a scalar by its look, to which a line feed at its end does not belong. -/
def Tag.ofLook (text : String) : Tag :=
  let characters := Text.dropFinalFeed text.toList
  let look := String.ofList characters
  if text = "" || nulls.contains look then .null
  else if truths.contains look then .truth
  else if look = "<<" then .merge
  else if look = "=" then .value
  else if reserved.contains look then .other
  else if looksReal characters then .real
  else if looksInteger characters then .integer
  else if Timestamp.looksLike characters then .timestamp
  else .text

example : Tag.ofLook "1_000\n" = .integer := by decide +kernel

end Steward.Yaml
