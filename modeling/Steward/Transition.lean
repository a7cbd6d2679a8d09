import Steward.Action

/-! Label transitions: some labels are removed, then others added. Every step is tried whatever
became of those before it, and what failed is collected for one report. -/

namespace Steward

structure Transition where
  failures : List Wording
deriving DecidableEq, Repr

namespace Transition

def succeeded (transition : Transition) : Bool := transition.failures.isEmpty

def error (transition : Transition) : Wording := Wording.joined "; " transition.failures

def failureOf (verb : String) (label : Json) (outcome : Outcome) : List Wording :=
  match outcome with
  | .done => []
  | .failed reason => [s!"Failed to {verb} \"" ++ label.display ++ "\" label: " ++ reason]

def removeAll (context : Context) : List Json → Job (List Wording)
  | [] => return []
  | label :: rest => do
      let outcome ← Action.removeLabel context label
      return failureOf "remove" label outcome ++ (← removeAll context rest)

def addAll (context : Context) : List Json → Job (List Wording)
  | [] => return []
  | label :: rest => do
      let outcome ← Action.addLabels context (.list [label])
      return failureOf "add" label outcome ++ (← addAll context rest)

def apply (context : Context) (additions removals : List Json) : Job Transition := do
  let removed ← removeAll context removals
  let added ← addAll context additions
  return ⟨removed ++ added⟩

def report (context : Context) (transition : Transition) (comment : Wording → Wording) :
    Job Unit := do
  if !transition.succeeded then
    Action.say context (comment transition.error)
    Job.info "Posted label update failure comment, tagged maintainers"

def applyAndReport (context : Context) (comment : Wording → Wording)
    (additions removals : List Json) : Job Transition := do
  let transition ← apply context additions removals
  report context transition comment
  return transition

end Transition

end Steward
