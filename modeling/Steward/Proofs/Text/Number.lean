import Mathlib.Data.List.Infix

/-! Numbers in texts. Their digits tell them apart, and where a mark stands that is no digit they
end. -/

namespace Steward.Text

variable {character : Char}

/-! ## Digits -/

theorem toDigits_injective {first second : Nat}
    (equal : Nat.toDigits 10 first = Nat.toDigits 10 second) : first = second := by
  rw [← Nat.ofDigitChars_ten_toDigits (n := first), equal, Nat.ofDigitChars_ten_toDigits]

theorem not_mem_toDigits (number : Nat) (other : character.isDigit = false) :
    character ∉ Nat.toDigits 10 number := by
  intro member
  have digit := Nat.isDigit_of_mem_toDigits (by decide) (by decide) member
  cases digit.symm.trans other

/-! ## Signs -/

theorem toList_ofNat (number : Nat) :
    (toString (number : Int)).toList = Nat.toDigits 10 number :=
  Nat.toList_repr

theorem toList_negSucc (number : Nat) :
    (toString (Int.negSucc number)).toList = '-' :: Nat.toDigits 10 (number + 1) := by
  have signed : toString (Int.negSucc number) = "-" ++ Nat.repr (number + 1) := rfl
  rw [signed, String.toList_append, Nat.toList_repr]
  rfl

theorem not_mem_toString (number : Int) (other : character.isDigit = false)
    (unsigned : character ≠ '-') :
    character ∉ (toString number).toList := by
  cases number with
  | ofNat number =>
      rw [Int.ofNat_eq_natCast, toList_ofNat]
      exact not_mem_toDigits number other
  | negSucc number =>
      rw [toList_negSucc, List.mem_cons, not_or]
      exact ⟨unsigned, not_mem_toDigits _ other⟩

theorem toString_injective {first second : Int} (equal : toString first = toString second) :
    first = second := by
  have characters := congrArg String.toList equal
  cases first with
  | ofNat first =>
      cases second with
      | ofNat second =>
          rw [Int.ofNat_eq_natCast, Int.ofNat_eq_natCast, toList_ofNat, toList_ofNat] at characters
          rw [toDigits_injective characters]
      | negSucc second =>
          rw [Int.ofNat_eq_natCast, toList_ofNat, toList_negSucc] at characters
          have sign : '-' ∈ Nat.toDigits 10 first := characters ▸ List.mem_cons_self
          exact absurd sign (not_mem_toDigits first rfl)
  | negSucc first =>
      cases second with
      | ofNat second =>
          rw [Int.ofNat_eq_natCast, toList_ofNat, toList_negSucc] at characters
          have sign : '-' ∈ Nat.toDigits 10 second := characters ▸ List.mem_cons_self
          exact absurd sign (not_mem_toDigits second rfl)
      | negSucc second =>
          rw [toList_negSucc, toList_negSucc] at characters
          have same := toDigits_injective (List.cons.inj characters).2
          rw [Nat.succ.inj same]

/-! ## Ends -/

/-- Before the same mark that is no digit stands the same number. -/
theorem eq_of_append_eq {first second : Int} {rest others : List Char}
    (other : character.isDigit = false) (unsigned : character ≠ '-')
    (equal : (toString first).toList ++ character :: rest =
      (toString second).toList ++ character :: others) : first = second := by
  have cut (number : Int) (rest : List Char) :
      ((toString number).toList ++ character :: rest).takeWhile (· ≠ character) =
        (toString number).toList := by
    have absent := not_mem_toString number other unsigned
    rw [List.takeWhile_append_of_pos, List.takeWhile_cons_of_neg (by simp), List.append_nil]
    intro digit member
    simpa using ne_of_mem_of_not_mem member absent
  have same := congrArg (List.takeWhile (· ≠ character)) equal
  rw [cut, cut] at same
  exact toString_injective (String.toList_inj.mp same)

/-! ## Infixes -/

/-- What begins with an absent mark stands in none of the places where it is absent. -/
theorem infix_append_iff {before after rest : List Char} (absent : character ∉ before) :
    character :: rest <:+: before ++ after ↔ character :: rest <:+: after := by
  induction before with
  | nil => rfl
  | cons other before induction =>
      rw [List.mem_cons, not_or] at absent
      rw [List.cons_append, List.infix_cons_iff, List.cons_prefix_cons, induction absent.2]
      simp [absent.1]

end Steward.Text
