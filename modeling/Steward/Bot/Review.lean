import Steward.Label
import Steward.Transition

/-! The bot that prepares a pull request for review: its author becomes its assignee, and a label
tells whether the checks before it have passed. -/

namespace Steward.Bot.Review

def name : String := "on-pr"

/-! ## The author -/

/-- Whether a login is among those of some assignees up to case. The walk ends where it is found. -/
def isAssigned (login : String) : List Json → Except Failure Bool
  | [] => return false
  | assignee :: rest => do
      let other := (← assignee.orEmpty.field "login").orElse (.text "")
      if (← other.requireText "lower").lower = Text.lower login then return true
      else isAssigned login rest

def assignAuthor (context : Context) : Job Bool := do
  let pull := Context.part context.pull
  let user := (← pull.orEmpty.field "user").orEmpty
  let author ← user.field "login"
  if author.isFalsy then
    Job.info "Exit: missing pull request author"
    return false
  match author.requireLogin "pr.author" with
  | .error fault =>
      Job.info ("Exit: invalid pr.author " ++ fault.message)
      return false
  | .ok login =>
      Job.info s!"Processing PR #{context.number} by {login}"
      let assignees := (← pull.field "assignees").orElse (.list [])
      if ← isAssigned login (← assignees.elements) then
        Job.info s!"Author {login} is already assigned"
        return false
      return (← Action.addAssignees context (.list [author])).isDone

/-! ## The label -/

structure Reports where
  signoff : Option String
  signature : Option String
  conflict : Option String
deriving DecidableEq, Repr

def Reports.ofEnvironment (environment : Environment) : Reports where
  signoff := environment.get? "DCO_PASSED"
  signature := environment.get? "GPG_PASSED"
  conflict := environment.get? "MERGE_CONFLICT"

def Reports.render (reports : Reports) : String :=
  s!"DCO_PASSED={Json.displayOption reports.signoff} " ++
    s!"GPG_PASSED={Json.displayOption reports.signature} " ++
    s!"MERGE_CONFLICT={Json.displayOption reports.conflict}"

/-- A pull request is to be reviewed when every check succeeded, and revised otherwise. -/
def Reports.label (reports : Reports) : String :=
  if reports = ⟨some "success", some "success", some "success"⟩ then Label.needsReview
  else Label.needsRevision

def labelFailureComment (label : String) (error : Wording) (settings : Settings) : Wording :=
  .ofLines
    ["⚠️ **PR Automation Bot Error**",
     "",
     settings.maintainerTeam ++ s!" — I was unable to add the `{label}` label to this PR.",
     "",
     "**Error:** " ++ error,
     "",
     "Please add the label manually or check that it exists in the repository."]

/-! ## Run -/

def prepare (context : Context) : Job String := do
  let _ ← assignAuthor context
  let reports := Reports.ofEnvironment (← Job.station).environment
  Job.info reports.render
  let label := reports.label
  let _ ← Transition.applyAndReport context
    (fun error => labelFailureComment label error context.settings) [.text label] []
  Job.info "On-PR bot completed"
  return label

def complaint (event : Option Event) (failure : Failure) : Wording :=
  "Error: " ++ failure.message ++ " (number=" ++ Event.pullNumber event ++ ")"

def run (event : Option Event) (settings : Job Settings) : Job String :=
  Job.named name <|
    Job.onFailure
      (do prepare (← (Context.ofEvent true event (← settings)).mapError Failure.event))
      fun failure => Job.error (complaint event failure)

end Steward.Bot.Review
