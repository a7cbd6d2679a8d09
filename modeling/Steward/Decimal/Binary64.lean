/-! Binary floating-point numbers of 64 bits, by value: a significand below `2 ^ 53` times a power
of two. Reading a decimal numeral chooses the nearest of them. -/

namespace Steward

/-- A finite number is `significand * 2 ^ exponent`, with the least exponent that `2 ^ 53` and the
bound `-1074` allow; both zeros have significand `0`. -/
inductive Binary64 where
  | nan
  | infinite (negative : Bool)
  | finite (negative : Bool) (significand : Nat) (exponent : Int)
deriving DecidableEq, Repr

namespace Binary64

def powerOfTwo (exponent : Nat) : Nat := Nat.pow 2 exponent

def powerOfTen (exponent : Nat) : Nat := Nat.pow 10 exponent

def leastExponent : Int := -1074

def greatestExponent : Int := 971

def zero (negative : Bool) : Binary64 := .finite negative 0 leastExponent

def isZero : Binary64 → Bool
  | .finite _ significand _ => significand == 0
  | _ => false

def isPositive : Binary64 → Bool
  | .nan => false
  | .infinite negative => !negative
  | .finite negative significand _ => !negative && significand != 0

/-! ## Rounding -/

/-- The nearest natural number to a ratio; of two equally near, the even one. -/
def roundRatio (numerator denominator : Nat) : Nat :=
  let floor := numerator / denominator
  let twice := 2 * (numerator % denominator)
  if twice < denominator then floor
  else if denominator < twice then floor + 1
  else if floor % 2 = 0 then floor
  else floor + 1

example : roundRatio 5 2 = 2 := rfl

example : roundRatio 7 2 = 4 := rfl

def scaleDown (numerator denominator : Nat) (exponent : Int) : Nat × Nat :=
  if 0 ≤ exponent then (numerator, denominator * powerOfTwo exponent.toNat)
  else (numerator * powerOfTwo (-exponent).toNat, denominator)

def ofRatio (negative : Bool) (numerator denominator : Nat) : Binary64 :=
  let estimate : Int := (numerator.log2 : Int) - (denominator.log2 : Int) - 53
  let start := max estimate leastExponent
  let scaled := scaleDown numerator denominator start
  let exponent := if scaled.1 / scaled.2 < powerOfTwo 53 then start else start + 1
  let exact := scaleDown numerator denominator exponent
  let rounded := roundRatio exact.1 exact.2
  let carried := rounded == powerOfTwo 53
  let significand := if carried then powerOfTwo 52 else rounded
  let final := if carried then exponent + 1 else exponent
  if significand = 0 then zero negative
  else if greatestExponent < final then .infinite negative
  else .finite negative significand final

/-- The number nearest to `digits * 10 ^ power`. Powers beyond every finite number, and below every
half of the least one, are settled by the count of digits alone. -/
def ofDecimal (negative : Bool) (digits : Nat) (power : Int) : Binary64 :=
  let magnitude : Int := power + (Nat.log2 digits / 3 + 1 : Nat)
  if digits = 0 || magnitude < -400 then zero negative
  else if 400 < power then .infinite negative
  else if 0 ≤ power then ofRatio negative (digits * powerOfTen power.toNat) 1
  else ofRatio negative digits (powerOfTen (-power).toNat)

def ofScaled (negative : Bool) (significand : Nat) (exponent : Int) : Binary64 :=
  if significand = 0 then zero negative
  else
    ofRatio negative (significand * powerOfTwo exponent.toNat) (powerOfTwo (-exponent).toNat)

def ofNatural (value : Nat) : Binary64 := ofScaled false value 0

example : ofDecimal false 2 0 = .finite false 0x10000000000000 (-51) := by decide

example : ofDecimal false 1 309 = .infinite false := by decide +kernel

/-! ## Arithmetic -/

/-- A significand with its sign, in units of `2 ^ least`. -/
def units (negative : Bool) (significand : Nat) (exponent least : Int) : Int :=
  let size : Int := significand * powerOfTwo (exponent - least).toNat
  if negative then -size else size

/-- The sum, exact and then rounded. A sum of zeros is negative only if both are. -/
def add : Binary64 → Binary64 → Binary64
  | .nan, _ => .nan
  | _, .nan => .nan
  | .infinite left, .infinite right => if left = right then .infinite left else .nan
  | .infinite left, _ => .infinite left
  | _, .infinite right => .infinite right
  | .finite left leftSize leftExponent, .finite right rightSize rightExponent =>
      let least := min leftExponent rightExponent
      let sum := units left leftSize leftExponent least + units right rightSize rightExponent least
      if sum = 0 then zero (left && right) else ofScaled (sum < 0) sum.natAbs least

def mul : Binary64 → Binary64 → Binary64
  | .nan, _ => .nan
  | _, .nan => .nan
  | .infinite left, .infinite right => .infinite (left != right)
  | .infinite left, .finite right size _ => if size = 0 then .nan else .infinite (left != right)
  | .finite left size _, .infinite right => if size = 0 then .nan else .infinite (left != right)
  | .finite left leftSize leftExponent, .finite right rightSize rightExponent =>
      ofScaled (left != right) (leftSize * rightSize) (leftExponent + rightExponent)

example : add (ofNatural 60) (ofScaled true 60 0) = zero false := by decide +kernel

/-- One tenth and two tenths, each rounded, add up to slightly more than three. -/
example : add (ofDecimal false 1 (-1)) (ofDecimal false 2 (-1)) ≠ ofDecimal false 3 (-1) := by
  decide +kernel

end Binary64

end Steward
