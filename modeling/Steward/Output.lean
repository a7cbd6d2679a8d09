import Steward.Job

/-! Results for later steps of a workflow: lines `key=value` at the end of the file that the
environment names. Without such a file nothing is written. -/

namespace Steward.Output

abbrev Values := List (Wording × Json)

def ofList (values : Values) : Values :=
  values.foldl (fun known value => Json.insert value.1 value.2 known) []

def valueText : Json → Wording
  | .bool true => "true"
  | .bool false => "false"
  | value => value.display

def line (value : Wording × Json) : Wording := value.1 ++ "=" ++ valueText value.2 ++ "\n"

def lines (values : Values) : Wording := .joined "" (values.map line)

def write (values : Values) : Job Unit := do
  match (← Job.station).environment.nonEmpty? "GITHUB_OUTPUT" with
  | none => return
  | some path =>
      if values.isEmpty then return
      match ← Job.attempt (Job.append path (lines values)) with
      | .ok () =>
          Job.info ("Wrote to GITHUB_OUTPUT: " ++ .joined ", " (values.map Prod.fst))
      | .error (.file fault) => Job.error ("Failed to write GITHUB_OUTPUT: " ++ fault.message)
      | .error failure => Job.fail failure

end Steward.Output
