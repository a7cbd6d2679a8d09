import Mathlib.Algebra.Group.Nat.Defs
import Steward.Text.Hex

/-! Bounds of hexadecimal numbers, and the digits that they are read from. -/

namespace Steward.Text

variable {width before number : Nat} {characters : List Char}

theorem hexValue?_lt {character : Char} {value : Nat} (isDigit : hexValue? character = some value) :
    value < 16 := by
  have nine : '9'.toNat = 57 := rfl
  have lower : 'f'.toNat = 102 := rfl
  have upper : 'F'.toNat = 70 := rfl
  have le (last : Char) (atMost : character ≤ last) : character.toNat ≤ last.toNat := atMost
  unfold hexValue? at isDigit
  simp only [Bool.and_eq_true, decide_eq_true_eq] at isDigit
  split at isDigit
  · rename_i range
    have atMost := le '9' range.2
    cases isDigit
    omega
  · split at isDigit
    · rename_i range
      have atMost := le 'f' range.2
      cases isDigit
      omega
    · split at isDigit
      · rename_i range
        have atMost := le 'F' range.2
        cases isDigit
        omega
      · cases isDigit

/-- A number of a few digits is small. -/
theorem hexNumber?_lt (isNumber : hexNumber? width before characters = some number) :
    number < (before + 1) * 16 ^ width := by
  induction width generalizing before characters with
  | zero =>
      cases isNumber
      omega
  | succ width induction =>
      cases characters with
      | nil => cases isNumber
      | cons character rest =>
          rw [hexNumber?] at isNumber
          split at isNumber
          · rename_i digit isDigit
            have small := hexValue?_lt isDigit
            calc number < (before * 16 + digit + 1) * 16 ^ width := induction isNumber
              _ ≤ (before + 1) * 16 * 16 ^ width := Nat.mul_le_mul_right _ (by omega)
              _ = (before + 1) * 16 ^ (width + 1) := by rw [Nat.pow_succ', Nat.mul_assoc]
          · cases isNumber

/-- A number is that of its digits alone. -/
theorem hexNumber?_take (isNumber : hexNumber? width before characters = some number) :
    (characters.take width).length = width ∧
      hexNumber? width before (characters.take width) = some number := by
  induction width generalizing before characters with
  | zero => exact ⟨rfl, isNumber⟩
  | succ width induction =>
      cases characters with
      | nil => cases isNumber
      | cons character rest =>
          rw [hexNumber?] at isNumber
          split at isNumber
          · rename_i digit isDigit
            rcases induction isNumber with ⟨whole, same⟩
            refine ⟨congrArg (· + 1) whole, ?_⟩
            rw [List.take_succ_cons, hexNumber?, isDigit]
            exact same
          · cases isNumber

end Steward.Text
