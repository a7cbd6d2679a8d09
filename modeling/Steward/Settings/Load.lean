import Steward.Job
import Steward.Settings

/-! The settings that a bot works with. They stand in a file; without the file the standard settings
hold. -/

namespace Steward.Settings

def standardPath : String := ".github/bot-config.yml"

def Complaint.notice : Complaint → Notice
  | .malformed => .settingsMalformed
  | .notMapping => .settingsNotMapping

def accept (text : Wording) : Job Settings := do
  let reading ← (parse text).mapError Failure.settings
  if let some complaint := reading.complaint then Job.notify complaint.notice
  return reading.settings

def loadFrom (path : String) : Job Settings := do
  match ← ((← Job.files).optional path).mapError Failure.file with
  | none => return standard
  | some bytes => accept (← Job.decodeText bytes)

def load : Job Settings := do
  loadFrom (((← Job.station).environment.nonEmpty? "BOT_CONFIG_PATH").getD standardPath)

end Steward.Settings
