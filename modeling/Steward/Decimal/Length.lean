/-! The greatest length of decimal numerals that are read as integers. -/

namespace Steward.Decimal

def greatestLength : Nat := 4300

def lengthMessage (length : Nat) : String :=
  s!"Exceeds the limit ({greatestLength} digits) for integer string conversion: " ++
    s!"value has {length} digits; use sys.set_int_max_str_digits() to increase the limit"

end Steward.Decimal
