import Steward.Decimal.Length
import Steward.Text.Quoted

/-! Why a YAML text denotes no value. Either it is no well-formed document, or a part of it stands
for a value that does not exist or cannot be built. -/

namespace Steward.Yaml

/-- A part of a text without a value. Most are scalars whose text does not fit their tag;
`digitCount` is also a version with too many digits, `character` an escape within quotes, and
`nesting` a collection within too many others. -/
inductive ValueFault where
  | year (value : Nat)
  | month
  | day
  | hour
  | minute
  | second
  | offset (negative : Bool) (minutes : Nat)
  | timestamp
  | timestampMapping
  | integer (base : Nat) (text : Wording)
  | digitCount (count : Nat)
  | real (text : Wording)
  | magnitude
  | noDigits
  | truth (text : Wording)
  | character (code : Nat)
  | nesting
deriving DecidableEq, Repr

inductive Fault where
  | malformed
  | value (fault : ValueFault)
deriving DecidableEq, Repr

/-- A duration as days and seconds, the days rounded down. -/
def duration (negative : Bool) (minutes : Nat) : String :=
  let total : Int := if negative then -minutes else minutes
  let days := Int.fdiv total 1440
  let seconds := (total - days * 1440) * 60
  if seconds = 0 then s!"datetime.timedelta(days={days})"
  else s!"datetime.timedelta(days={days}, seconds={seconds})"

def greatestQuotation : Nat := 200

def quotation (text : Wording) : String :=
  String.ofList ((Text.quoted text).toList.take greatestQuotation)

def ValueFault.message : ValueFault → String
  | .year value => s!"year {value} is out of range"
  | .month => "month must be in 1..12"
  | .day => "day is out of range for month"
  | .hour => "hour must be in 0..23"
  | .minute => "minute must be in 0..59"
  | .second => "second must be in 0..59"
  | .offset negative minutes =>
      "offset must be a timedelta strictly between -timedelta(hours=24) and " ++
        s!"timedelta(hours=24), not {duration negative minutes}."
  | .timestamp => "'NoneType' object has no attribute 'groupdict'"
  | .timestampMapping => "expected string or bytes-like object, got 'list'"
  | .integer base text => s!"invalid literal for int() with base {base}: {quotation text}"
  | .digitCount count => Decimal.lengthMessage count
  | .real text => s!"could not convert string to float: {Text.quoted text}"
  | .magnitude => "int too large to convert to float"
  | .noDigits => "string index out of range"
  | .truth text => Text.quoted text
  | .character code =>
      if code < 0x80000000 then "chr() arg not in range(0x110000)"
      else "Python int too large to convert to C int"
  | .nesting => "maximum recursion depth exceeded"

end Steward.Yaml
