import Steward.Decimal.Binary64
import Steward.Decimal.Length
import Steward.Text.Digit

/-! Numerals as people may write them: with digits of any script, and with blanks around them. -/

namespace Steward.Decimal

/-! ## Characters -/

/-- A text in the characters of numerals: each decimal digit becomes the one of ASCII, each blank
beyond ASCII a space. Where any other character stands beyond ASCII the text is cut, with a mark
that no numeral has. -/
def simplified : List Char → List Char
  | [] => []
  | character :: rest =>
      if character.toNat < 0x80 then character :: simplified rest
      else if Text.isBlank character then ' ' :: simplified rest
      else
        match Text.decimalDigit? character with
        | some digit => Char.ofNat (48 + digit) :: simplified rest
        | none => ['?']

example : simplified ['\u0663', '\u00a0', 'é', '5'] = ['3', ' ', '?'] := rfl

/-- What may stand around a numeral. The information separators, which are blanks elsewhere, may
not. -/
def isSpace (character : Char) : Bool :=
  character = ' ' || ('\t' ≤ character && character ≤ '\r')

def strip (characters : List Char) : List Char :=
  ((characters.dropWhile isSpace).reverse.dropWhile isSpace).reverse

def unsigned : List Char → List Char
  | '+' :: rest => rest
  | '-' :: rest => rest
  | rest => rest

def valueOf (digits : List Char) : Nat :=
  digits.foldl (fun value digit => value * 10 + (digit.toNat - 48)) 0

/-! ## Integers -/

inductive Fault where
  | malformed
  | tooLong (length : Nat)
deriving DecidableEq, Repr

def digitValue (character : Char) : Nat :=
  if '0' ≤ character && character ≤ '9' then character.toNat - 48
  else if 'a' ≤ character && character ≤ 'z' then character.toNat - 87
  else if 'A' ≤ character && character ≤ 'Z' then character.toNat - 55
  else 36

def baseMarks (base : Nat) : List Char :=
  if base = 2 then ['b', 'B'] else if base = 8 then ['o', 'O'] else if base = 16 then ['x', 'X']
  else []

def dropBaseMark (base : Nat) : List Char → List Char
  | '0' :: mark :: rest => if (baseMarks base).contains mark then rest else '0' :: mark :: rest
  | characters => characters

/-- An integer in a base. In base ten too many digits are refused, whatever comes after them. -/
def integer (base : Nat) (text : List Char) : Except Fault Int :=
  let numeral := strip (simplified text)
  let digits := dropBaseMark base (unsigned numeral)
  let known := digits.takeWhile (digitValue · < base)
  if base = 10 && greatestLength < known.length then .error (.tooLong known.length)
  else if digits.isEmpty || known.length < digits.length then .error .malformed
  else
    let size : Int := (digits.foldl (fun value digit => value * base + digitValue digit) 0 : Nat)
    .ok (if numeral.head? == some '-' then -size else size)

example : (integer 16 [' ', '-', '0', 'x', '1', 'f']).toOption = some (-31) := by decide +kernel

/-! ## Binary numbers -/

def isWord (word : String) (characters : List Char) : Bool :=
  String.ofList (characters.map Char.toLower) == word

def finite? (negative : Bool) (characters : List Char) : Option Binary64 :=
  let whole := characters.takeWhile Char.isDigit
  let afterWhole := characters.dropWhile Char.isDigit
  let (fraction, rest) := match afterWhole with
    | '.' :: rest => (rest.takeWhile Char.isDigit, rest.dropWhile Char.isDigit)
    | _ => ([], afterWhole)
  let digits := whole ++ fraction
  let number (power : Int) : Binary64 :=
    .ofDecimal negative (valueOf digits) (power - fraction.length)
  if digits.isEmpty then none
  else
    match rest with
    | [] => some (number 0)
    | mark :: exponent =>
        let power := unsigned exponent
        if (mark = 'e' || mark = 'E') && !power.isEmpty && power.all Char.isDigit then
          let size : Int := valueOf power
          some (number (if exponent.head? == some '-' then -size else size))
        else none

def real? (text : List Char) : Option Binary64 :=
  let numeral := strip (simplified text)
  let negative := numeral.head? == some '-'
  let bare := unsigned numeral
  if isWord "inf" bare || isWord "infinity" bare then some (.infinite negative)
  else if isWord "nan" bare then some .nan
  else finite? negative bare

example : real? ['-', '.', '5'] = some (.finite true 0x10000000000000 (-53)) := by decide +kernel

end Steward.Decimal
