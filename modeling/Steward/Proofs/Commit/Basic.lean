import Steward.Commit.Basic
import Steward.Proofs.Json

/-! Commits that pass their checks. -/

namespace Steward.Commit

def IsSignedOff (commit : Json) : Prop :=
  ∃ text, Event.valueAt commit ["commit", "message"] = .text text ∧
    Signoff.isIn text.shown.toList = true

def HasVerifiedSignature (commit : Json) : Prop :=
  Event.valueAt commit ["commit", "verification", "verified"] = .bool true

/-! ## Checks -/

theorem isVerified_eq_true_iff {commit : Json} :
    isVerified commit = .ok true ↔ HasVerifiedSignature commit := by
  have present : Json.bool true ≠ .null := nofun
  unfold isVerified HasVerifiedSignature
  rw [← Json.walk_eq_iff present, Except.bind_eq_ok_iff]
  refine exists_congr fun content => and_congr_right fun _ => ?_
  rw [← Json.walk_eq_iff present, Except.bind_eq_ok_iff]
  refine exists_congr fun verification => and_congr_right fun _ => ?_
  rw [← Json.field_orEmpty_eq_ok_iff present, Except.bind_eq_ok_iff]
  simp [Json.isTrue_iff]

theorem has_orElse_eq_true_iff {message : Json} :
    Signoff.has (message.orElse (.text "")) = .ok true ↔
      ∃ text, message = .text text ∧ Signoff.isIn text.shown.toList = true := by
  by_cases absent : message.isFalsy = true
  · rw [Json.orElse_of_falsy absent]
    constructor
    · intro signed
      cases signed
    · intro signed
      rcases signed with ⟨text, rfl, signed⟩
      have empty : text = "" := by simpa [Json.isFalsy] using absent
      rw [empty] at signed
      cases signed
  · have there : message.isFalsy = false := by simpa using absent
    rw [Json.orElse_of_truthy there]
    cases message <;> simp [Signoff.has, there]

theorem isSignedOff_eq_true_iff {commit : Json} :
    isSignedOff commit = .ok true ↔ IsSignedOff commit := by
  have present (text : Wording) : Json.text text ≠ .null := nofun
  unfold isSignedOff message IsSignedOff
  simp only [Except.bind_eq_ok_iff, Except.pure_eq_ok, Except.ok.injEq]
  constructor
  · intro walk
    rcases walk with ⟨_, ⟨content, there, found, member, rfl⟩, has⟩
    rcases has_orElse_eq_true_iff.mp has with ⟨text, rfl, isIn⟩
    have textAt := (Json.field_orEmpty_eq_ok_iff (present text)).mp member
    exact ⟨text, (Json.walk_eq_iff (present text)).mp ⟨content, there, textAt⟩, isIn⟩
  · intro walk
    rcases walk with ⟨text, textAt, isIn⟩
    rcases (Json.walk_eq_iff (present text)).mpr textAt with ⟨content, there, textAt⟩
    have member := (Json.field_orEmpty_eq_ok_iff (present text)).mpr textAt
    exact ⟨_, ⟨content, there, _, member, rfl⟩, has_orElse_eq_true_iff.mpr ⟨text, rfl, isIn⟩⟩

/-! ## Findings -/

/-- Nothing is found exactly if every commit passes. -/
theorem failing_eq_nil_iff {passes : Json → Except Failure Bool} {commits : List Json}
    {findings : List Finding} (known : failing passes commits = .ok findings) :
    findings = [] ↔ ∀ commit ∈ commits, passes commit = .ok true := by
  induction commits generalizing findings with
  | nil =>
      cases known
      simp
  | cons commit rest induction =>
      rw [failing, Except.bind_eq_ok_iff] at known
      rcases known with ⟨passed, check, known⟩
      cases passed with
      | true =>
          rw [List.forall_mem_cons, ← induction known]
          simp [check]
      | false =>
          simp only [Bool.false_eq_true, if_false, Except.bind_eq_ok_iff] at known
          rcases known with ⟨finding, -, others, -, equal⟩
          cases equal
          simp [check]

end Steward.Commit
