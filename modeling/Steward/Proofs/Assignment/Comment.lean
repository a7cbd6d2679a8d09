import Steward.Assignment.Comment
import Steward.Proofs.Json
import Steward.Proofs.Wording

/-! Comments are never blank, whatever stands in them: each begins with a greeting or a mark. -/

namespace Steward.Assignment.Comment

/-! ## Starts -/

theorem isAllBlank_greeting : Text.isAllBlank "👋 Hi @" = false := by decide

theorem isAllBlank_warning : Text.isAllBlank "⚠️ @" = false := by decide

theorem isAllBlank_greetingWarning : Text.isAllBlank "⚠️ Hi @" = false := by decide

/-! ## Comments -/

theorem welcome_spoken (username : Wording) (level : SkillLevel) (settings : Settings) :
    Text.isAllBlank (welcome username level settings).shown = false := by
  cases level <;> exact Wording.isAllBlank_ofLines (by simp [isAllBlank_greeting])

theorem alreadyAssigned_spoken {requester issue : Json} {repository : Repository}
    {comment : Wording} (made : alreadyAssigned requester issue repository = .ok comment) :
    Text.isAllBlank comment.shown = false := by
  simp only [alreadyAssigned, Except.bind_eq_ok_iff] at made
  rcases made with ⟨logins, -, name, -, isNamed, -, made⟩
  cases isNamed <;> simp at made <;> subst made <;>
    exact Wording.isAllBlank_ofLines (by simp [isAllBlank_greeting])

theorem notReady_spoken (requester : Wording) (repository : Repository) :
    Text.isAllBlank (notReady requester repository).shown = false :=
  Wording.isAllBlank_ofLines (by simp [isAllBlank_greeting])

theorem noSkillLevel_spoken (requester : Wording) (settings : Settings) :
    Text.isAllBlank (noSkillLevel requester settings).shown = false :=
  Wording.isAllBlank_framed (by simp [isAllBlank_greeting])

theorem prerequisiteNotMet_spoken {requester completed comment : String} {level : SkillLevel}
    {repository : Repository}
    (made : prerequisiteNotMet requester level completed repository = .ok comment) :
    Text.isAllBlank (comment : Wording).shown = false := by
  unfold prerequisiteNotMet at made
  split at made
  · cases made
  · rw [← Except.ok.inj made]
    exact Text.isAllBlank_ofLines (by simp [toString, isAllBlank_greeting])

theorem limitExceeded_spoken (requester held : String) (repository : Repository)
    (hasBlocked : Bool) :
    Text.isAllBlank (limitExceeded requester held repository hasBlocked : Wording).shown =
        false := by
  rw [Wording.shown_coe, limitExceeded]
  exact Text.isAllBlank_ofLines (by simp [toString, isAllBlank_greeting])

theorem serviceError_spoken (requester : Wording) (settings : Settings) :
    Text.isAllBlank (serviceError requester settings).shown = false :=
  Wording.isAllBlank_ofLines (by simp [isAllBlank_greeting])

theorem labelFailure_spoken (username : Wording) (error : Wording) (settings : Settings) :
    Text.isAllBlank (labelFailure username error settings).shown = false :=
  Wording.isAllBlank_ofLines (by simp [isAllBlank_warning])

theorem assignmentFailure_spoken (requester : Wording) (error : Wording) (settings : Settings) :
    Text.isAllBlank (assignmentFailure requester error settings).shown = false :=
  Wording.isAllBlank_ofLines (by simp [isAllBlank_greetingWarning])

end Steward.Assignment.Comment
