import Steward.Event
import Steward.Service
import Steward.Settings

/-! A context is what is known of an event once it has been checked: the repository, the number of
the issue or pull request, and the objects of the payload that the bots look into. -/

namespace Steward

structure Context where
  repository : Repository
  event : String
  number : Int
  issue : Option Json
  pull : Option Json
  comment : Option Json
  settings : Settings
deriving Repr

namespace Context

def part (value : Option Json) : Json := value.getD .null

def pullEvents : List String := ["pull_request", "pull_request_target"]

def commentEvent : String := "issue_comment"

def issueEvents : List String := ["issues", commentEvent]

/-! ## Checked parts -/

def checkedRepository (value : Json) : Except EventFault Repository := do
  let owner := Event.valueAt value ["owner"]
  let name := Event.valueAt value ["repo"]
  let ownerText ← owner.requireNonBlank "context.repo.owner"
  let nameText ← name.requireNonBlank "context.repo.repo"
  if owner.isSearchWord && name.isSearchWord then return ⟨ownerText.shown, nameText.shown⟩
  else .error (.unsafeCharacters "owner or repo")

/-- The number of a pull request, whose author may be missing but not malformed. -/
def checkedPull (pull : Json) : Except EventFault Int := do
  pull.requireObject "context.payload.pull_request"
  let number ← (Event.valueAt pull ["number"]).requirePositive "pull_request.number"
  let user := Event.valueAt pull ["user"]
  if user.isTruthy then
    user.requireObject "pull_request.user"
    let _ ← (Event.valueAt user ["login"]).requireLogin "pull_request.user.login"
  return number

def checkedIssue (issue : Json) : Except EventFault Int := do
  issue.requireObject "context.payload.issue"
  (Event.valueAt issue ["number"]).requirePositive "issue.number"

def checkedComment (comment : Json) : Except EventFault Unit := do
  comment.requireObject "context.payload.comment"
  let user := Event.valueAt comment ["user"]
  user.requireObject "context.payload.comment.user"
  let _ ← (Event.valueAt user ["login"]).requireSearchWord "context.payload.comment.user.login"
    "comment.user.login"
  match Event.valueAt comment ["body"] with
  | .text _ => return ()
  | _ => .error .bodyNotText

/-! ## Checked events -/

def ofEvent (hasClient : Bool) (event : Option Event) (settings : Settings) :
    Except EventFault Context := do
  if !hasClient then .error (.missing "client")
  match event with
  | none => .error (.missing "context")
  | some event => do
      event.repository.requireObject "context.repo"
      event.payload.requireObject "context.payload"
      let repository ← checkedRepository event.repository
      let named ← event.name.requireNonBlank "context.eventName"
      let name := named.shown
      let payload (member : String) := Event.valueAt event.payload [member]
      if pullEvents.contains name then do
        let pull := payload "pull_request"
        let number ← checkedPull pull
        return ⟨repository, name, number, none, some pull, none, settings⟩
      else if issueEvents.contains name then do
        let issue := payload "issue"
        let number ← checkedIssue issue
        if name = commentEvent then
          let comment := payload "comment"
          checkedComment comment
          return ⟨repository, name, number, some issue, none, some comment, settings⟩
        else return ⟨repository, name, number, some issue, none, none, settings⟩
      else .error (.unsupported named)

inductive Subject where
  | pull
  | issue
deriving DecidableEq, Repr

def subject? (context : Context) : Option Subject :=
  if context.pull.isSome then some .pull
  else if context.issue.isSome then some .issue
  else none

end Context

end Steward
