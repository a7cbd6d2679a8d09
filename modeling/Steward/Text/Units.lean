/-! Code points from UTF-16 units. A character above the basic plane may stand as two units, a high
and a low surrogate; a surrogate without its other half stays one. -/

namespace Steward.Text

/-- A surrogate, by its place among them. -/
abbrev Surrogate := Fin 0x800

def Surrogate.unit (surrogate : Surrogate) : Nat := 0xd800 + surrogate.val

inductive CodePoint where
  | character (value : Char)
  | surrogate (value : Surrogate)
deriving DecidableEq, Repr

def isHighSurrogate (unit : Nat) : Bool := 0xd800 ≤ unit && unit ≤ 0xdbff

def isLowSurrogate (unit : Nat) : Bool := 0xdc00 ≤ unit && unit ≤ 0xdfff

def isSurrogate (unit : Nat) : Bool := isHighSurrogate unit || isLowSurrogate unit

def combine (high low : Nat) : Char :=
  Char.ofNat (0x10000 + (high - 0xd800) * 0x400 + (low - 0xdc00))

def CodePoint.ofUnit (unit : Nat) : CodePoint :=
  if isSurrogate unit then .surrogate (Fin.ofNat 0x800 (unit - 0xd800))
  else .character (Char.ofNat unit)

/-- The code points of code points and UTF-16 units. -/
def ofUnits : List Nat → List CodePoint
  | [] => []
  | [unit] => [.ofUnit unit]
  | high :: low :: rest =>
      if isHighSurrogate high && isLowSurrogate low then
        .character (combine high low) :: ofUnits rest
      else .ofUnit high :: ofUnits (low :: rest)

example : ofUnits [0x61, 0xd83d, 0xdc4b] = [.character 'a', .character '👋'] := rfl

example : ofUnits [0xd83d, 0x61] = [.surrogate 0x3d, .character 'a'] := rfl

end Steward.Text
