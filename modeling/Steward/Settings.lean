import Steward.Text.Blank
import Steward.Yaml.Load

/-! The names and addresses that the bots' comments mention, and their reading from a YAML text. -/

namespace Steward

structure Settings where
  maintainerTeam : Wording
  supportTeam : Wording
  projectName : Wording
  signingGuide : Wording
  conflictGuide : Wording
deriving DecidableEq, Repr

namespace Settings

def standard : Settings where
  maintainerTeam := "@hiero-ledger/hiero-sdk-cpp-maintainers"
  supportTeam := "@hiero-ledger/hiero-sdk-good-first-issue-support"
  projectName := "Hiero C++ SDK"
  signingGuide :=
    "https://github.com/hiero-ledger/hiero-sdk-cpp/blob/main/docs/training/signing.md"
  conflictGuide :=
    "https://github.com/hiero-ledger/hiero-sdk-cpp/blob/main/docs/training/merge-conflicts.md"

/-! ## Reading -/

inductive Complaint where
  | malformed
  | notMapping
deriving DecidableEq, Repr

structure Reading where
  settings : Settings
  complaint : Option Complaint
deriving DecidableEq, Repr

/-- The text last set for a key, unless another value was set after it or it is blank. -/
def override (fields : List (Wording × Option Wording)) (key : String) : Option Wording :=
  ((fields.reverse.lookup (key : Wording)).join).filter fun text => !Text.isAllBlank text.shown

def ofFields (fields : List (Wording × Option Wording)) : Settings where
  maintainerTeam := (override fields "maintainer_team").getD standard.maintainerTeam
  supportTeam := (override fields "good_first_issue_support_team").getD standard.supportTeam
  projectName := (override fields "project_name").getD standard.projectName
  signingGuide := (override fields "signing_guide_url").getD standard.signingGuide
  conflictGuide := (override fields "merge_conflicts_guide_url").getD standard.conflictGuide

/-- Reads settings. A text that is no YAML document or denotes no mapping leaves the standard
settings; a part that stands for no value is a fault of its own. -/
def parse (text : Wording) : Except Yaml.ValueFault Reading :=
  match Yaml.load text with
  | .ok (.mapping fields) => .ok ⟨ofFields fields, none⟩
  | .ok .absent => .ok ⟨standard, none⟩
  | .ok .other => .ok ⟨standard, some .notMapping⟩
  | .error .malformed => .ok ⟨standard, some .malformed⟩
  | .error (.value fault) => .error fault

end Settings

end Steward
