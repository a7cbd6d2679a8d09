import Steward.Action
import Steward.Commit.Listing
import Steward.Commit.Report
import Steward.Conflict
import Steward.Output

/-! The bot that checks the commits of a pull request: their sign-offs, their signatures, and
whether they conflict with the base. Each check that fails is answered with a comment of its own. -/

namespace Steward.Bot.Commit

open Steward.Commit

def name : String := "on-commit"

structure Verdicts where
  signoff : Conclusion
  signature : Conclusion
  conflict : Conclusion
deriving DecidableEq, Repr

/-- The verdicts of a run that failed: it vouches for no commit, and claims no conflict. -/
def Verdicts.ofFailure : Verdicts := ⟨.failure, .failure, .success⟩

def Verdicts.values (verdicts : Verdicts) : Output.Values :=
  [("dco", .text verdicts.signoff.name), ("gpg", .text verdicts.signature.name),
   ("merge_conflict", .text verdicts.conflict.name)]

/-! ## Checks -/

def conclude (context : Context) (check : String) (total : Nat) (findings : List Finding)
    (comment : List Finding → Settings → Wording) : Job Conclusion := do
  Job.info (tally check total findings.length)
  if !findings.isEmpty then Action.say context (comment findings context.settings)
  return .ofPassed findings.isEmpty

def checkSignoffs (context : Context) (commits : List Json) : Job Conclusion := do
  conclude context "DCO" commits.length (← unsigned commits) signoffComment

def checkSignatures (context : Context) (commits : List Json) : Job Conclusion := do
  conclude context "GPG" commits.length (← unverified commits) signatureComment

def checkConflict (context : Context) : Job Conclusion := do
  let conflicts ← Conflict.check context.repository context.number Conflict.standardAttempts
    Conflict.standardDelay
  let found := if conflicts then "has conflicts" else "no conflicts"
  Job.info s!"Merge conflict check: {found}"
  if conflicts then Action.say context (conflictComment context.settings)
  return .ofPassed !conflicts

def check (context : Context) : Job Verdicts := do
  let commits ← fetchAll context.repository context.number standardPerPage
  let signoff ← checkSignoffs context commits
  let signature ← checkSignatures context commits
  let conflict ← checkConflict context
  return { signoff, signature, conflict }

/-! ## Run -/

def complaint (event : Option Event) (failure : Failure) : Wording :=
  "Error: " ++ failure.message ++ " (number=" ++ Event.pullNumber event ++ ")"

def run (event : Option Event) (settings : Job Settings) : Job Verdicts :=
  Job.named name <|
    Job.onFailure
      (do
        let context ← (Context.ofEvent true event (← settings)).mapError Failure.event
        let verdicts ← check context
        Output.write verdicts.values
        Job.info "On-commit bot completed"
        return verdicts)
      fun failure => do
        Job.error (complaint event failure)
        Output.write Verdicts.ofFailure.values

end Steward.Bot.Commit
