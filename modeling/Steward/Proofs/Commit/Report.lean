import Steward.Commit.Report
import Steward.Proofs.Text.Lines
import Steward.Proofs.Wording

/-! Conclusions of checks, reports on them, and complaints in comments. A report says something
exactly if a commit fails. Each complaint names its check at its beginning, so that none can be
taken for one of another check. -/

namespace Steward.Commit

theorem Conclusion.name_injective {first second : Conclusion} (same : first.name = second.name) :
    first = second := by
  cases first <;> cases second <;> simp [name] at same ⊢

/-! ## Reports -/

section

variable {findings : Findings} {settings : Settings} {total : String}

theorem Findings.areNone_iff :
    findings.areNone = true ↔ findings.unsigned = [] ∧ findings.unverified = [] := by
  simp [Findings.areNone]

theorem conclusion_eq_success_iff :
    (checkReport total findings settings).conclusion = .success ↔ findings.areNone = true := by
  unfold checkReport
  split <;> simp_all

theorem conclusion_eq_failure (some_ : findings.areNone = false) :
    (checkReport total findings settings).conclusion = .failure := by
  simp [checkReport, some_]

theorem text_eq_none_iff :
    (checkReport total findings settings).text = none ↔ findings.areNone = true := by
  unfold checkReport
  split <;> simp_all

theorem signingComment_eq_none_iff :
    signingComment findings settings = none ↔ findings.areNone = true := by
  unfold signingComment
  split <;> simp_all

theorem signingComment_spoken {comment : Wording}
    (made : signingComment findings settings = some comment) :
    Text.isAllBlank comment.shown = false := by
  unfold signingComment at made
  split at made
  · cases made
  · rw [← Option.some.inj made]
    exact Wording.isAllBlank_ofLines (by decide)

end

/-! ## Complaints -/

inductive Check where
  | signoff
  | signature
  | conflict
deriving DecidableEq, Repr

inductive IsComplaint : Check → Wording → Prop
  | signoff (findings : List Finding) (settings : Settings) :
      IsComplaint .signoff (signoffComment findings settings)
  | signature (findings : List Finding) (settings : Settings) :
      IsComplaint .signature (signatureComment findings settings)
  | conflict (settings : Settings) : IsComplaint .conflict (conflictComment settings)

def Check.greeting : Check → String
  | .signoff => "Hi, this is **DCO Bot**! 👋"
  | .signature => "Hi, this is **GPG Bot**! 👋"
  | .conflict => "Hi, this is **Merge Conflict Bot**! 👋"

variable {check : Check} {comment : Wording}

theorem IsComplaint.starts (complaint : IsComplaint check comment) :
    ∃ tail, comment = check.greeting ++ tail := by
  cases complaint with
  | signoff | signature => exact Wording.framed_starts _ _ _ _
  | conflict => exact Wording.ofLines_starts _ _

theorem IsComplaint.spoken (complaint : IsComplaint check comment) :
    Text.isAllBlank comment.shown = false := by
  rcases complaint.starts with ⟨tail, rfl⟩
  have spoken : Text.isAllBlank check.greeting = false := by cases check <;> decide
  simp [spoken]

theorem getElem?_greeting (check : Check) (tail : List Text.CodePoint) :
    (Wording.characters check.greeting ++ tail)[14]? =
      some (.character
        (match check with | .signoff => 'D' | .signature => 'G' | .conflict => 'M')) := by
  cases check <;> rfl

def Check.greets (check : Check) (comment : Wording) : Bool :=
  (Wording.characters check.greeting).isPrefixOf comment.points

theorem IsComplaint.greets_iff {other : Check} (complaint : IsComplaint check comment) :
    other.greets comment = true ↔ other = check := by
  rcases complaint.starts with ⟨tail, split⟩
  unfold Check.greets
  rw [List.isPrefixOf_iff_prefix]
  constructor
  · intro begins
    rcases begins with ⟨otherTail, otherSplit⟩
    have letters := getElem?_greeting other otherTail
    rw [otherSplit, split, Wording.points_append, Wording.points_coe,
      getElem?_greeting check tail.points] at letters
    cases check <;> cases other <;> simp at letters <;> rfl
  · intro same
    rw [same, split, Wording.points_append, Wording.points_coe]
    exact List.prefix_append _ _

end Steward.Commit
