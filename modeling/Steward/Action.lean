import Steward.Context

/-! Changes to the issue or pull request of a context, and to its comments. None of them fails: what
goes wrong is logged, and told in the outcome. -/

namespace Steward

inductive Outcome where
  | done
  | failed (reason : Wording)
deriving DecidableEq, Repr

namespace Outcome

def isDone : Outcome → Bool
  | .done => true
  | .failed _ => false

def reason? : Outcome → Option Wording
  | .done => none
  | .failed reason => some reason

end Outcome

namespace Action

/-! ## Guarded changes -/

def guarded (change : Job Json) (complain : Wording → Job Unit) (success : Wording) :
    Job Outcome := do
  match ← Job.attempt change with
  | .ok _ =>
      Job.info success
      return .done
  | .error failure =>
      complain failure.message
      return .failed failure.message

def checkItems {α : Type} (check : Json → String → Except EventFault α) (name : String) :
    (position : Nat) → List Json → Except Failure Unit
  | _, [] => .ok ()
  | position, item :: rest => do
      let _ ← (check item s!"{name}[{position}]").mapError Failure.event
      checkItems check name (position + 1) rest

def joined (items : List Json) : Wording := Wording.joined ", " (items.map Json.display)

/-! ## Changes -/

def addLabels (context : Context) (labels : Json) : Job Outcome :=
  match labels with
  | .list items =>
      guarded
        (do
          checkItems Json.requireNonBlank "labels" 0 items
          Service.addLabels context.repository context.number labels)
        (fun reason => Job.error ("Could not add labels \"" ++ joined items ++ "\": " ++ reason))
        ("Added labels: " ++ joined items)
  | _ => return .failed "labels must be a list"

def removeLabel (context : Context) (label : Json) : Job Outcome :=
  guarded
    (do
      let _ ← (label.requireNonBlank "label").mapError Failure.event
      Service.removeLabel context.repository context.number (← label.requireEncodable))
    (fun reason => Job.error ("Could not remove label \"" ++ label.display ++ "\": " ++ reason))
    ("Removed label: " ++ label.display)

def addAssignees (context : Context) (assignees : Json) : Job Outcome :=
  match assignees with
  | .list items =>
      guarded
        (do
          checkItems Json.requireLogin "assignees" 0 items
          Service.addAssignees context.repository context.number assignees)
        (fun reason =>
          Job.error ("Could not add assignees \"" ++ joined items ++ "\": " ++ reason))
        ("Added assignees: " ++ joined items)
  | _ => return .failed "assignees must be a list"

def postComment (context : Context) (body : Json) : Job Outcome :=
  guarded
    (do
      let _ ← (body.requireNonBlank "comment body").mapError Failure.event
      Service.createComment context.repository context.number body)
    (fun reason => Job.error ("Could not post comment: " ++ reason))
    "Posted comment"

/-- Reacts to a comment. That this fails is no error. -/
def addReaction (context : Context) (comment content : Json) : Job Outcome :=
  guarded (Service.createReaction context.repository comment content)
    (fun reason => Job.info ("Could not add reaction: " ++ reason))
    ("Added " ++ content.display ++ " reaction to comment")

def say (context : Context) (comment : Wording) : Job Unit := do
  let _ ← postComment context (.text comment)

end Action

end Steward
