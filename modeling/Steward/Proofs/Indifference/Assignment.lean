import Steward.Proofs.Command
import Steward.Proofs.Indifference.Action

/-! Requests for assignment, by what they do with the answers to them: searches and changes decide
what becomes of a request, while its comments only tell of it. -/

namespace Steward

variable {bot : Bot} {station : Station}

/-! ## Counts -/

namespace Search

theorem indifferent_run (search : Search) : search.run.Indifferent bot.Overlooks station := by
  refine .info (.bindAttempt (Service.indifferent_query _ _) fun found => ?_)
  cases found with
  | error failure => exact .info (.pure _)
  | ok data =>
      refine .lift fun value => ?_
      cases value with
      | integer count =>
          exact .choice (.info (.pure _)) (.info (.pure _))
      | _ => exact .info (.pure _)

theorem indifferent_count (inputs : Inputs) : (count inputs).Indifferent bot.Overlooks station := by
  unfold count
  cases ofInputs inputs with
  | error refusal => exact .info (.pure _)
  | ok search => exact search.indifferent_run

end Search

namespace Assignment

theorem indifferent_countBlocked (context : Context) (requester : Json) :
    (countBlocked context requester).Indifferent bot.Overlooks station := by
  refine .bind (Search.indifferent_count _) fun count => ?_
  cases count <;> exact .pure _

/-! ## Gates -/

/-- A gate that settles a request comments on it first. -/
theorem indifferent_settle {α : Type} (context : Context) (comment : Wording) (result : α) :
    (do Action.say context comment; return result : Job α).Indifferent bot.Overlooks station :=
  .bind (Action.indifferent_say _ _) fun _ => .pure _

theorem indifferent_checkIssue (context : Context) (requester : Json) :
    (checkIssue context requester).Indifferent bot.Overlooks station := by
  unfold checkIssue
  refine .lift fun assignees => .choice ?_ (.lift fun ready => .choice ?_ (.lift fun level => ?_))
  · exact .lift fun _ => .info (.lift fun _ => indifferent_settle _ _ _)
  · exact .info (indifferent_settle _ _ _)
  · cases level with
    | none => exact .info (indifferent_settle _ _ _)
    | some level => exact .info (.pure _)

theorem indifferent_checkLimit (context : Context) (requester : Json) :
    (checkLimit context requester).Indifferent bot.Overlooks station := by
  refine .bind (Search.indifferent_count _) fun count => ?_
  cases count with
  | unverified reason => exact .info (indifferent_settle _ _ _)
  | verified held =>
      refine .choice (.info ?_) (.info (.pure _))
      exact .bind (indifferent_countBlocked _ _) fun _ => indifferent_settle _ _ _

theorem indifferent_checkPrerequisite (context : Context) (level : SkillLevel)
    (requester : Json) :
    (checkPrerequisite context level requester).Indifferent bot.Overlooks station := by
  unfold checkPrerequisite
  cases level.prerequisite? with
  | none => exact .pure _
  | some prerequisite =>
      refine .bind (Search.indifferent_count _) fun count => ?_
      cases count with
      | unverified reason => exact .info (indifferent_settle _ _ _)
      | verified completed =>
          exact .choice (.info (.lift fun _ => indifferent_settle _ _ _)) (.info (.pure _))

/-! ## Whole requests -/

theorem indifferent_assign (other : bot ≠ .review) (context : Context) (requester : Json)
    (level : SkillLevel) :
    (assign context requester level).Indifferent bot.Overlooks station := by
  refine .info (.bind (Action.indifferent_addAssignees other _ _) fun outcome => ?_)
  cases outcome with
  | failed reason => exact .bind (Action.indifferent_say _ _) fun _ => .info (.pure _)
  | done =>
      refine .bind (Transition.indifferent_apply _ _ _) fun transition => ?_
      refine .bind (Action.indifferent_say _ _) fun _ => .info ?_
      exact .bind (Transition.indifferent_report _ _ _) fun _ => .info (.pure _)

theorem indifferent_decide (other : bot ≠ .review) (context : Context) (requester : Json) :
    (decide context requester).Indifferent bot.Overlooks station := by
  refine .bind (indifferent_checkIssue _ _) fun passage => ?_
  cases passage with
  | settled decision => exact .pure _
  | through level =>
      refine .bind (indifferent_checkLimit _ _) fun passage => ?_
      cases passage with
      | settled decision => exact .pure _
      | through =>
          refine .bind (indifferent_checkPrerequisite _ _ _) fun passage => ?_
          cases passage with
          | settled decision => exact .pure _
          | through => exact indifferent_assign other _ _ _

theorem indifferent_handle (other : bot ≠ .review) (context : Context) :
    (handle context).Indifferent bot.Overlooks station :=
  .lift fun _ => .lift fun _ => .lift fun _ =>
    .ignoring (Action.takes_addReaction _) (indifferent_decide other _ _)

end Assignment

/-! ## Comments -/

namespace Command

theorem indifferent_detect (body : Json) : (detect body).Indifferent bot.Overlooks station := by
  cases body with
  | text body => exact .ofSettled (takes_detect body)
  | _ => exact .pure _

theorem indifferent_dispatch (other : bot ≠ .review) (context : Context) :
    (dispatch context).Indifferent bot.Overlooks station := by
  refine .lift fun user => .lift fun login => .choice (.info (.pure _)) ?_
  refine .lift fun kind => .choice (.info (.pure _)) ?_
  refine .lift fun body => .bind (indifferent_detect body) fun commands => ?_
  refine .choice (.info (.pure _)) (.mapM fun command => ?_)
  cases command with
  | assign => exact Assignment.indifferent_handle other context

end Command

end Steward
