import Steward.Action
import Steward.Commit.Listing
import Steward.Commit.Report
import Steward.Output

/-! The bot that verifies how the commits of a pull request are signed. It reports in a check run,
and in one comment where a commit fails. -/

namespace Steward.Bot.Signing

open Steward.Commit

def name : String := "dco-gpg-bot"

def checkName : String := "DCO & GPG"

/-! ## Check runs -/

def reportBody (report : CheckReport) : Json :=
  let text := report.text.getD ""
  .object (
    ("title", .text report.title) :: ("summary", .text report.summary) ::
      if text = "" then [] else [("text", .text text)])

def checkRun (head : Json) (report : CheckReport) (now : String) : Json :=
  .object
    [("name", .text checkName), ("head_sha", head), ("status", .text "completed"),
     ("conclusion", .text report.conclusion.name), ("completed_at", .text now),
     ("output", reportBody report)]

def createCheckRun (context : Context) (head : Json) (report : CheckReport) : Job Unit := do
  let run := checkRun head report (← Job.station).now
  let _ ← Service.createCheckRun context.repository run
  Job.info s!"Check run created: {report.conclusion.name}"

/-! ## Verification -/

def summary (findings : Findings) : String :=
  let said (passes : Bool) := (Json.bool passes).literal
  s!"Results: dco_pass={said findings.unsigned.isEmpty} " ++
    s!"gpg_pass={said findings.unverified.isEmpty} passed={said findings.areNone}"

def judge (context : Context) (head : Json) (commits : List Json) : Job Bool := do
  let findings : Findings := ⟨← unsigned commits, ← unverified commits⟩
  Job.info (tally "DCO" commits.length findings.unsigned.length)
  Job.info (tally "GPG" commits.length findings.unverified.length)
  Job.info (summary findings)
  createCheckRun context head (checkReport (toString commits.length) findings context.settings)
  if let some comment := signingComment findings context.settings then Action.say context comment
  return findings.areNone

/-- Verifies a pull request. One without a head or without commits has not passed. -/
def verify (context : Context) : Job Bool := do
  let pull := Context.part context.pull
  let head ← (← pull.orEmpty.field "head").orEmpty.field "sha"
  if head.isFalsy then
    Job.info "Exit: missing head SHA"
    return false
  let commits ← fetchAll context.repository context.number standardPerPage
  if commits.isEmpty then
    Job.info "Exit: no commits on PR"
    return false
  judge context head commits

/-! ## Run -/

def writeVerdict (passed : Bool) : Job Unit :=
  Output.write [("dco_gpg_passed", .text (Conclusion.ofPassed passed).name)]

def snapshot (event : Option Event) : Wording :=
  "Payload snapshot: pull=" ++ Event.pullNumber event ++ " action=" ++ Event.action event ++
    " head=" ++ Event.headCommit event

def complaint (event : Option Event) (failure : Failure) : Wording :=
  "Error: " ++ failure.message ++ " (pull=" ++ Event.pullNumber event ++ ")"

def run (event : Option Event) (settings : Job Settings) : Job Bool :=
  Job.named name <| do
    Job.info (snapshot event)
    Job.onFailure
      (do
        let passed ← verify (← (Context.ofEvent true event (← settings)).mapError Failure.event)
        writeVerdict passed
        Job.info "DCO/GPG bot completed"
        return passed)
      fun failure => do
        Job.error (complaint event failure)
        writeVerdict false

end Steward.Bot.Signing
