import Steward.Failure
import Steward.Text.Lowercase

/-! Labels of issues and pull requests. Case does not tell labels apart. -/

namespace Steward.Label

/-! ## Names -/

def readyForDev : String := "status: ready for dev"

def inProgress : String := "status: in progress"

def blocked : String := "status: blocked"

def needsReview : String := "status: needs review"

def needsRevision : String := "status: needs revision"

/-! ## Lookup -/

/-- The name of an entry of a label list: the entry itself or its `name`, where that is a text. -/
def name? : Json → Option Wording
  | .text name => some name
  | .object members => (Json.lookup members "name").text?
  | _ => none

def names (subject : Json) : Except Failure (List Wording) := do
  let labels ← subject.orEmpty.field "labels"
  return (← (labels.orElse (.list [])).elements).filterMap name?

def isAmong (name : Wording) (names : List Wording) : Bool :=
  names.any fun other => other.lower == name.lower

def has (subject : Json) (name : Wording) : Except Failure Bool :=
  return isAmong name (← names subject)

end Steward.Label
