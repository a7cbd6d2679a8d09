import Steward.Text.Lowercase
import Steward.Yaml.Fault
import Steward.Yaml.Tag

/-! What a scalar denotes: a text, or something else of which only matters whether it counts as
absent. -/

namespace Steward.Yaml

/-- A scalar's value. Null, false, zero and empty bytes are absent. -/
inductive Datum where
  | text (value : Wording)
  | other (isAbsent : Bool)
deriving DecidableEq, Repr

namespace Datum

open Text (CodePoint pieces)

/-! ## Truth values -/

def truth (text : Wording) : Except ValueFault Datum :=
  let word := text.lower
  if ["yes", "true", "on"].contains word.shown then .ok (.other false)
  else if ["no", "false", "off"].contains word.shown then .ok (.other true)
  else .error (.truth word)

/-! ## Integers -/

def withoutBars (text : Wording) : Wording :=
  .ofPoints (text.points.filter (· ≠ .character '_'))

def unsigned : List CodePoint → List CodePoint
  | .character '+' :: rest => rest
  | .character '-' :: rest => rest
  | rest => rest

/-- The value of a numeral, in which a surrogate is nothing but a fault. -/
def numberIn (base : Nat) (points : List CodePoint) : Except ValueFault Int :=
  match Decimal.integer base (points.map Wording.shownPoint) with
  | .ok value => .ok value
  | .error .malformed => .error (.integer base (.ofPoints points))
  | .error (.tooLong length) => .error (.digitCount length)

def sixties (value : Int) : List (List CodePoint) → Except ValueFault Int
  | [] => .ok value
  | part :: rest => do sixties (value * 60 + (← numberIn 10 part)) rest

def size (points : List CodePoint) : Except ValueFault Int :=
  match points with
  | [] => .error .noDigits
  | [.character '0'] => .ok 0
  | .character '0' :: .character 'b' :: rest => numberIn 2 rest
  | .character '0' :: .character 'x' :: rest => numberIn 16 rest
  | .character '0' :: _ => numberIn 8 points
  | _ =>
      if points.contains (.character ':') then sixties 0 (pieces (.character ':') points)
      else numberIn 10 points

def integer (text : Wording) : Except ValueFault Datum := do
  let points := (withoutBars text).points
  if points.isEmpty then .error .noDigits
  return .other ((← size (unsigned points)) == 0)

/-! ## Binary numbers -/

def binaryNumber (points : List CodePoint) : Except ValueFault Binary64 :=
  match Decimal.real? (points.map Wording.shownPoint) with
  | some number => .ok number
  | none => .error (.real (.ofPoints points))

/-- Adds up the parts of a number to base sixty, lowest first, where `weight` is what the first of
them counts. The sum is rounded at each step; a weight has to be a binary number too. -/
def sumOfSixties (weight : Nat) (sum : Binary64) : List Binary64 → Except ValueFault Binary64
  | [] => .ok sum
  | part :: rest =>
      match Binary64.ofNatural weight with
      | .finite negative significand exponent =>
          let product := part.mul (.finite negative significand exponent)
          sumOfSixties (weight * 60) (sum.add product) rest
      | _ => .error .magnitude

def real (text : Wording) : Except ValueFault Datum := do
  let points := (withoutBars text).lower.points
  if points.isEmpty then .error .noDigits
  let bare := unsigned points
  if bare = Wording.characters ".inf" || bare = Wording.characters ".nan" then return .other false
  else if bare.contains (.character ':') then
    let parts ← (pieces (.character ':') bare).mapM binaryNumber
    return .other (← sumOfSixties 1 (Binary64.zero false) parts.reverse).isZero
  else return .other (← binaryNumber bare).isZero

/-! ## Points in time -/

def isLeap (year : Nat) : Bool := year % 4 = 0 && (year % 100 ≠ 0 || year % 400 = 0)

def daysOfMonth (year month : Nat) : Nat :=
  if month = 2 then if isLeap year then 29 else 28
  else if month = 4 || month = 6 || month = 9 || month = 11 then 30
  else 31

/-- The first part of a time that is out of range. The zone is looked at first, then the date, then
the time of day. -/
def timeFault (timestamp : Timestamp) : Option ValueFault :=
  let zoneFault := do
    let (negative, minutes) ← (← timestamp.time).offset
    if 1440 ≤ minutes then some (ValueFault.offset negative minutes) else none
  let dateFault :=
    if timestamp.year = 0 then some (ValueFault.year timestamp.year)
    else if timestamp.month = 0 || 12 < timestamp.month then some .month
    else if timestamp.day = 0 || daysOfMonth timestamp.year timestamp.month < timestamp.day then
      some .day
    else none
  let clockFault := do
    let time ← timestamp.time
    if 23 < time.hour then some ValueFault.hour
    else if 59 < time.minute then some .minute
    else if 59 < time.second then some .second
    else none
  zoneFault <|> dateFault <|> clockFault

def timestamp (text : Wording) : Except ValueFault Datum :=
  match Timestamp.ofCharacters (Text.dropFinalFeed text.shown.toList) with
  | none => .error .timestamp
  | some timestamp =>
      match timeFault timestamp with
      | some fault => .error fault
      | none => .ok (.other false)

/-! ## Bytes -/

def isBase64 (character : Char) : Bool :=
  character.isAlphanum || character = '+' || character = '/'

/-- Whether a text is whole groups of four digits to base 64, the last of which may be filled up.
All other characters are passed over. `digits` counts those of the group, `fill` the filling. -/
def isBase64Text (digits fill : Nat) : List Char → Bool
  | [] => digits == 0
  | '=' :: rest =>
      if 2 ≤ digits then
        if 4 ≤ digits + fill + 1 then true else isBase64Text digits (fill + 1) rest
      else isBase64Text digits fill rest
  | character :: rest =>
      if isBase64 character then isBase64Text ((digits + 1) % 4) 0 rest
      else isBase64Text digits fill rest

def binary (text : Wording) : Except Fault Datum :=
  let characters := text.shown.toList
  if characters.all (·.toNat < 0x80) && isBase64Text 0 0 characters then
    .ok (.other ((characters.filter isBase64).isEmpty))
  else .error .malformed

/-! ## Scalars -/

def ofScalar (tag : Tag) (text : Wording) : Except Fault Datum :=
  match tag with
  | .text => .ok (.text text)
  | .null => .ok (.other true)
  | .truth => (truth text).mapError .value
  | .integer => (integer text).mapError .value
  | .real => (real text).mapError .value
  | .timestamp => (timestamp text).mapError .value
  | .binary => binary text
  | _ => .error .malformed

end Datum

end Steward.Yaml
