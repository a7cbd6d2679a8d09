import Steward.Commit.Signoff
import Steward.Json.Display

/-! Commits of a pull request as the service lists them, and those that fail a check. -/

namespace Steward.Commit

def message (commit : Json) : Except Failure Json := do
  let content ← commit.orEmpty.field "commit"
  return (← content.orEmpty.field "message").orElse (.text "")

/-- Whether a commit's signature is verified. No value but true says so. -/
def isVerified (commit : Json) : Except Failure Bool := do
  let content ← commit.orEmpty.field "commit"
  let verification ← content.orEmpty.field "verification"
  return (← verification.orEmpty.field "verified").isTrue

def isSignedOff (commit : Json) : Except Failure Bool := do Signoff.has (← message commit)

/-! ## Findings -/

/-- A commit that fails a check, as it is reported: the start of its identifier and the first line
of its message. -/
structure Finding where
  identifier : Json
  message : Wording
deriving Repr

def Finding.markdown (finding : Finding) : Wording :=
  "- `" ++ finding.identifier.display ++ "` " ++ finding.message

def shownLength : Nat := 7

def shortIdentifier : Json → Except Failure Json
  | .text identifier => .ok (.text (identifier.take shownLength))
  | .list parts => .ok (.list (parts.take shownLength))
  | other => .error (.notSliceable other.kind)

def headline (message : Wording) : Wording :=
  let line := message.firstLine
  if line = "" then "(no message)" else line

def describe (commit : Json) : Except Failure Finding := do
  let identifier ← shortIdentifier ((← commit.orEmpty.field "sha").orElse (.text ""))
  let text ← (← message commit).requireText "split"
  return ⟨identifier, headline text⟩

def failing (passes : Json → Except Failure Bool) : List Json → Except Failure (List Finding)
  | [] => .ok []
  | commit :: rest => do
      if ← passes commit then failing passes rest
      else
        let finding ← describe commit
        return finding :: (← failing passes rest)

def unsigned (commits : List Json) : Except Failure (List Finding) := failing isSignedOff commits

def unverified (commits : List Json) : Except Failure (List Finding) := failing isVerified commits

end Steward.Commit
