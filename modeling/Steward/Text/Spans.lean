/-! Sets of characters, written as spans of code points. -/

namespace Steward

abbrev Spans := List (Nat × Nat)

namespace Spans

def contains (spans : Spans) (character : Char) : Bool :=
  spans.any fun span => span.1 ≤ character.toNat && character.toNat ≤ span.2

example : Spans.contains [(0x30, 0x39), (0x61, 0x66)] 'c' = true := rfl

example : Spans.contains [(0x30, 0x39), (0x61, 0x66)] 'g' = false := rfl

end Spans

end Steward
