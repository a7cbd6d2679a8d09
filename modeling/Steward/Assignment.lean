import Steward.Assignment.Comment
import Steward.Transition

/-! Assignment of an issue to whoever asks for it in a comment. A request goes through gates, and
the first gate that does not let it through answers it with one comment. -/

namespace Steward.Assignment

inductive Decision where
  | assigned
  | alreadyAssigned
  | notReady
  | noSkillLabel
  | limitExceeded
  | prerequisitesNotMet
  | serviceError
  | assignmentFailed
deriving DecidableEq, Repr

def Decision.name : Decision → String
  | .assigned => "assigned"
  | .alreadyAssigned => "already_assigned"
  | .notReady => "not_ready"
  | .noSkillLabel => "no_skill_label"
  | .limitExceeded => "limit_exceeded"
  | .prerequisitesNotMet => "prerequisites_not_met"
  | .serviceError => "api_error"
  | .assignmentFailed => "assignment_failed"

/-- What a gate comes to: it lets a request through, with something it found out, or settles it. -/
inductive Passage (α : Type) where
  | through (found : α)
  | settled (decision : Decision)
deriving Repr

/-! ## Counts -/

def countIssues (context : Context) (username : Json) (state : String) (label : Json) :
    Job Search.Count :=
  Search.count {
    owner := .text context.repository.owner
    repository := .text context.repository.name
    username
    state := .text state
    label }

/-- The blocked issues that somebody holds, none if they cannot be counted. -/
def countBlocked (context : Context) (username : Json) : Job Int := do
  match ← countIssues context username Search.openState (.text Label.blocked) with
  | .verified count => return count
  | .unverified _ => return 0

/-! ## Gates -/

def settleUnverified (context : Context) (requester : Json) : Job (Passage Unit) := do
  Action.say context (Comment.serviceError requester.display context.settings)
  return .settled .serviceError

def loginsOf (assignees : Json) : Except Failure Json :=
  return .list (← (← assignees.elements).mapM (Json.field "login"))

def checkIssue (context : Context) (requester : Json) : Job (Passage SkillLevel) := do
  let issue := Context.part context.issue
  let assignees := (← issue.field "assignees").orElse (.list [])
  if assignees.isTruthy then
    Job.info s!"Exit: issue already assigned to {(← loginsOf assignees).literal}"
    Action.say context (← Comment.alreadyAssigned requester issue context.repository)
    return .settled .alreadyAssigned
  if !(← Label.has issue Label.readyForDev) then
    Job.info "Exit: issue missing ready for dev label"
    Action.say context (Comment.notReady requester.display context.repository)
    return .settled .notReady
  match ← SkillLevel.ofIssue issue with
  | none =>
      Job.info "Exit: issue has no skill level label"
      Action.say context (Comment.noSkillLevel requester.display context.settings)
      return .settled .noSkillLabel
  | some level =>
      Job.info s!"Issue skill level: {level.label}"
      return .through level

def checkLimit (context : Context) (requester : Json) : Job (Passage Unit) := do
  match ← countIssues context requester Search.openState .null with
  | .unverified _ =>
      Job.info "Exit: could not verify open assignments due to API error"
      settleUnverified context requester
  | .verified held =>
      if (maximumOpen : Int) ≤ held then
        Job.info (s!"Exit: contributor has too many open assignments " ++
          s!"(max {maximumOpen}, current {held})")
        let blocked ← countBlocked context requester
        Action.say context
          (Comment.limitExceeded requester.display.shown (toString held) context.repository
            (0 < blocked))
        return .settled .limitExceeded
      else
        Job.info s!"Open assignment count OK (max {maximumOpen}, current {held})"
        return .through ()

def checkPrerequisite (context : Context) (level : SkillLevel) (requester : Json) :
    Job (Passage Unit) := do
  match level.prerequisite? with
  | none => return .through ()
  | some prerequisite =>
      match ← countIssues context requester Search.closedState (.text prerequisite.level.label) with
      | .unverified _ =>
          Job.info "Exit: could not verify prerequisites due to API error"
          settleUnverified context requester
      | .verified completed =>
          if completed < prerequisite.count then
            Job.info (s!"Exit: prerequisites not met (required {prerequisite.count}, " ++
              s!"completed {completed})")
            Action.say context
              (← Comment.prerequisiteNotMet requester.display.shown level (toString completed)
                context.repository)
            return .settled .prerequisitesNotMet
          else
            Job.info
              s!"Prerequisites met (required {prerequisite.count}, completed {completed})"
            return .through ()

/-! ## Assigning -/

/-- Assigns the issue, moves its labels on and welcomes the requester. An assignment stands even if
the labels do not follow. -/
def assign (context : Context) (requester : Json) (level : SkillLevel) : Job Decision := do
  Job.info ("Assigning issue to " ++ requester.display)
  match ← Action.addAssignees context (.list [requester]) with
  | .failed reason =>
      Action.say context (Comment.assignmentFailure requester.display reason context.settings)
      Job.info "Posted assignment failure comment, tagged maintainers"
      return .assignmentFailed
  | .done =>
      let transition ←
        Transition.apply context [.text Label.inProgress] [.text Label.readyForDev]
      Action.say context (Comment.welcome requester.display level context.settings)
      Job.info "Posted welcome comment"
      Transition.report context transition fun error =>
        Comment.labelFailure requester.display error context.settings
      Job.info "Assignment flow completed successfully"
      return .assigned

def decide (context : Context) (requester : Json) : Job Decision := do
  match ← checkIssue context requester with
  | .settled decision => return decision
  | .through level =>
      match ← checkLimit context requester with
      | .settled decision => return decision
      | .through () =>
          match ← checkPrerequisite context level requester with
          | .settled decision => return decision
          | .through () => assign context requester level

def handle (context : Context) : Job Decision := do
  let comment := Context.part context.comment
  let requester ← (← comment.member "user").member "login"
  let _ ← Action.addReaction context (← comment.field "id") (.text "+1")
  decide context requester

end Steward.Assignment
