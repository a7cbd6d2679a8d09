/-! Hexadecimal digits, as they are written and as they are read. -/

namespace Steward.Text

def hexDigit (value : Nat) : Char :=
  if value < 10 then Char.ofNat (48 + value) else Char.ofNat (87 + value)

def hexDigits : (width : Nat) → Nat → List Char
  | 0, _ => []
  | width + 1, value => hexDigits width (value / 16) ++ [hexDigit (value % 16)]

example : hexDigits 4 0xa0 = ['0', '0', 'a', '0'] := rfl

def hexValue? (character : Char) : Option Nat :=
  if '0' ≤ character && character ≤ '9' then some (character.toNat - 48)
  else if 'a' ≤ character && character ≤ 'f' then some (character.toNat - 87)
  else if 'A' ≤ character && character ≤ 'F' then some (character.toNat - 55)
  else none

/-- The value of exactly `width` digits in front, after digits of the value `before`. -/
def hexNumber? : (width : Nat) → (before : Nat) → List Char → Option Nat
  | 0, before, _ => some before
  | _ + 1, _, [] => none
  | width + 1, before, character :: rest =>
      match hexValue? character with
      | some digit => hexNumber? width (before * 16 + digit) rest
      | none => none

example : hexNumber? 4 0 ['0', '0', 'A', '0', 'x'] = some 0xa0 := rfl

end Steward.Text
