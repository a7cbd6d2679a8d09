import Steward.Commit.Basic
import Steward.Settings

/-! Reports on the commits of a pull request: for a check run, and as comments. -/

namespace Steward.Commit

structure Findings where
  unsigned : List Finding
  unverified : List Finding
deriving Repr

def Findings.areNone (findings : Findings) : Bool :=
  findings.unsigned.isEmpty && findings.unverified.isEmpty

/-! ## Sections -/

def unsignedHeading : String := "### Commits missing DCO sign-off"

def unverifiedHeading : String := "### Commits without verified GPG signature"

def sectionLines (heading : String) (findings : List Finding) : List Wording :=
  if findings.isEmpty then [] else heading :: findings.map Finding.markdown

def blockLines (findings : Findings) : List Wording :=
  let first := sectionLines unsignedHeading findings.unsigned
  let second := sectionLines unverifiedHeading findings.unverified
  if first.isEmpty || second.isEmpty then first ++ second
  else first ++ ([""] : List Wording) ++ second

/-! ## Check runs -/

inductive Conclusion where
  | success
  | failure
deriving DecidableEq, Repr

def Conclusion.name : Conclusion → String
  | .success => "success"
  | .failure => "failure"

def Conclusion.ofPassed (passed : Bool) : Conclusion := if passed then .success else .failure

structure CheckReport where
  conclusion : Conclusion
  title : String
  summary : String
  text : Option Wording
deriving DecidableEq, Repr

def failureSummary (total : String) (findings : Findings) : String :=
  let checked := s!"Checked {total} commit(s)."
  let unsigned :=
    if findings.unsigned.isEmpty then ""
    else s!" **DCO:** {findings.unsigned.length} commit(s) missing `Signed-off-by`."
  let unverified :=
    if findings.unverified.isEmpty then ""
    else s!" **GPG:** {findings.unverified.length} commit(s) without verified GPG signature."
  checked ++ unsigned ++ unverified

def checkReport (total : String) (findings : Findings) (settings : Settings) : CheckReport :=
  if findings.areNone then
    { conclusion := .success
      title := s!"All {total} commit(s) have DCO sign-off and verified GPG signatures"
      summary :=
        s!"Checked {total} commit(s). All have required DCO sign-off and verified GPG signatures."
      text := none }
  else
    { conclusion := .failure
      title := "Some commits are missing DCO sign-off or GPG verification"
      summary := failureSummary total findings
      text := some (.framed [] (blockLines findings)
        ["", "See the [Signing Guide](" ++ settings.signingGuide ++ ") for how to sign commits."]) }

def tally (check : String) (total failing : Nat) : String :=
  s!"{check} check: {total - failing}/{total} passed"

/-! ## Comments -/

def signingComment (findings : Findings) (settings : Settings) : Option Wording :=
  if findings.areNone then none
  else
    some (.framed
      ["## DCO & GPG check - action needed",
       "",
       "Some commits on this PR are missing required sign-off or GPG verification.",
       ""]
      (blockLines findings)
      ["",
       "Please ensure every commit has a line `Signed-off-by: Your Name " ++
        "<your.email@example.com>` and is signed with GPG (`git commit -s -S`).",
       "",
       "See the [Signing Guide](" ++ settings.signingGuide ++ ") for details."])

def signoffComment (findings : List Finding) (settings : Settings) : Wording :=
  .framed
    ["Hi, this is **DCO Bot**! 👋",
     "",
     "I noticed some commits on this PR are missing the required DCO sign-off. Here are the " ++
       "ones that need attention:",
     ""]
    (findings.map Finding.markdown)
    ["",
     "Please add a line `Signed-off-by: Your Name <your.email@example.com>` to each commit " ++
       "(e.g. `git commit -s`). For more info, see the " ++
       "[Signing Guide](" ++ settings.signingGuide ++ ")."]

def signatureComment (findings : List Finding) (settings : Settings) : Wording :=
  .framed
    ["Hi, this is **GPG Bot**! 👋",
     "",
     "I noticed some commits on this PR don't have a verified GPG signature. Here are the " ++
       "ones that need attention:",
     ""]
    (findings.map Finding.markdown)
    ["",
     "Please sign your commits with GPG (e.g. `git commit -S`). For more info, see the " ++
       "[Signing Guide](" ++ settings.signingGuide ++ ")."]

def conflictComment (settings : Settings) : Wording :=
  .ofLines
    ["Hi, this is **Merge Conflict Bot**! 👋",
     "",
     "I noticed this PR has merge conflicts with the base branch. Please update your branch " ++
       "(e.g. rebase or merge from base) and push. See the " ++
       "[Merge conflicts guide](" ++ settings.conflictGuide ++ ") for help."]

end Steward.Commit
