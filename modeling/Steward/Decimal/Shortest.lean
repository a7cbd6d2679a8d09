import Steward.Decimal.Binary64

/-! The shortest decimal numeral that reads back as a given binary number, and its text. -/

namespace Steward.Binary64

/-- A positive decimal numeral: the digits with the point in front of them, shifted `point` places
to the right. -/
structure Numeral where
  digits : List Nat
  point : Int
deriving DecidableEq, Repr

/-! ## Digits -/

def digitsOf : (fuel : Nat) → Nat → List Nat
  | 0, _ => []
  | fuel + 1, value => if value < 10 then [value] else digitsOf fuel (value / 10) ++ [value % 10]

def dropZeros (digits : List Nat) : List Nat := (digits.reverse.dropWhile (· == 0)).reverse

/-- The reals that round to a positive number, as numerators over one denominator: the bounds, and
the number itself between them. The bounds belong to it when its significand is even. -/
structure Interval where
  lower : Nat
  value : Nat
  upper : Nat
  denominator : Nat
  closed : Bool

def interval (significand : Nat) (exponent : Int) : Interval :=
  let below := if significand = powerOfTwo 52 && leastExponent < exponent then 1 else 2
  let quarter := exponent - 2
  let up := powerOfTwo quarter.toNat
  let closed := significand % 2 == 0
  { lower := (4 * significand - below) * up
    value := 4 * significand * up
    upper := (4 * significand + 2) * up
    denominator := powerOfTwo (-quarter).toNat
    closed }

def Interval.holds (bounds : Interval) (candidate : Nat) (power : Int) : Bool :=
  let point := candidate * bounds.denominator * powerOfTen power.toNat
  let scale := powerOfTen (-power).toNat
  if bounds.closed then bounds.lower * scale ≤ point && point ≤ bounds.upper * scale
  else bounds.lower * scale < point && point < bounds.upper * scale

/-- The numeral with `count` digits that reads back, if any does: of the two neighbours of the
number on that grid the nearer one, and the even one of two equally near. -/
def Interval.numeral? (bounds : Interval) (point : Int) (count : Nat) : Option Numeral :=
  let power := point - count
  let numerator := bounds.value * powerOfTen (-power).toNat
  let denominator := bounds.denominator * powerOfTen power.toNat
  let floor := numerator / denominator
  let nearest := roundRatio numerator denominator
  let other := if nearest = floor then floor + 1 else floor
  let written (candidate : Nat) : Numeral :=
    let digits := digitsOf (count + 1) candidate
    ⟨dropZeros digits, power + digits.length⟩
  if nearest ≠ 0 && bounds.holds nearest power then some (written nearest)
  else if other ≠ 0 && bounds.holds other power then some (written other)
  else none

/-- The least `point` with the number below `10 ^ point`, searched upward from an estimate that is
never too great. -/
def Interval.point (bounds : Interval) (estimate : Int) : Int :=
  let below (point : Int) : Bool :=
    bounds.value * powerOfTen (-point).toNat < bounds.denominator * powerOfTen point.toNat
  if below estimate then estimate
  else if below (estimate + 1) then estimate + 1
  else estimate + 2

/-- Seventeen digits always suffice. -/
def shortest (significand : Nat) (exponent : Int) : Numeral :=
  let bounds := interval significand exponent
  let magnitude := (significand.log2 : Int) + exponent
  let point := bounds.point (Int.fdiv (magnitude * 30103) 100000)
  ((List.range 17).findSome? fun count => bounds.numeral? point (count + 1)).getD ⟨[], 0⟩

/-! ## Text -/

structure Layout where
  leastPoint : Int
  greatestPoint : Int
  exponentDigits : Nat
  notANumber : String
  infinity : String

def digitText (digits : List Nat) : String :=
  String.ofList (digits.map fun digit => Char.ofNat (48 + digit))

def zeros (count : Nat) : String := String.ofList (List.replicate count '0')

/-- A positional numeral always has a digit on each side of the point. -/
def Numeral.positional (numeral : Numeral) : String :=
  let count := numeral.digits.length
  if numeral.point ≤ 0 then
    "0." ++ zeros (-numeral.point).toNat ++ digitText numeral.digits
  else if count ≤ numeral.point.toNat then
    digitText numeral.digits ++ zeros (numeral.point.toNat - count) ++ ".0"
  else
    digitText (numeral.digits.take numeral.point.toNat) ++ "." ++
      digitText (numeral.digits.drop numeral.point.toNat)

def Numeral.scientific (layout : Layout) (numeral : Numeral) : String :=
  let power := numeral.point - 1
  let digits := toString power.natAbs
  let fraction := match numeral.digits.drop 1 with
    | [] => ""
    | rest => "." ++ digitText rest
  digitText (numeral.digits.take 1) ++ fraction ++ "e" ++ (if power < 0 then "-" else "+") ++
    zeros (layout.exponentDigits - digits.length) ++ digits

def Numeral.text (layout : Layout) (numeral : Numeral) : String :=
  if layout.leastPoint ≤ numeral.point && numeral.point ≤ layout.greatestPoint then
    numeral.positional
  else numeral.scientific layout

def text (layout : Layout) : Binary64 → String
  | .nan => layout.notANumber
  | .infinite negative => (if negative then "-" else "") ++ layout.infinity
  | .finite negative significand exponent =>
      (if negative then "-" else "") ++
        (if significand = 0 then "0.0" else (shortest significand exponent).text layout)

/-! ## The numbers of messages -/

def messageLayout : Layout := ⟨-3, 16, 2, "nan", "inf"⟩

def jsonLayout : Layout := { messageLayout with notANumber := "NaN", infinity := "Infinity" }

example : (ofDecimal false 15 (-1)).text messageLayout = "1.5" := by decide +kernel

example : (ofDecimal false 1 22).text messageLayout = "1e+22" := by decide +kernel

example : (ofDecimal false 5 (-324)).text messageLayout = "5e-324" := by decide +kernel

example : (ofDecimal true 0 0).text messageLayout = "-0.0" := by decide +kernel

end Steward.Binary64
