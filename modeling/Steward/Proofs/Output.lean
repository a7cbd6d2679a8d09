import Steward.Output
import Steward.Proofs.Course

/-! Writing results for later steps. It comes to nothing but a longer file: if the results can be
encoded it never fails, and what it cannot write is logged. -/

namespace Steward.Output

def AreEncodable (values : Values) : Prop := ∃ text : String, lines values = text

/-- The files after values are written. Without a name for the file, without values, or if the file
cannot be extended, they stay as they are. -/
def recorded (environment : Environment) (values : Values) (files : Files) : Files :=
  match environment.nonEmpty? "GITHUB_OUTPUT" with
  | none => files
  | some path =>
      if values.isEmpty then files
      else (files.append path (Text.Utf8.encode (lines values).shown)).toOption.getD files

theorem append_run (path text : String) (station : Station) (session : Session) :
    ∃ result : Except FileFault Unit, Job.append path text station session =
      (result.mapError .file, { session with
        files := (session.files.append path (Text.Utf8.encode text)).toOption.getD
          session.files }) := by
  unfold Job.append
  simp only [Wording.encodable_coe, Except.toOption, Option.getD_some]
  cases session.files.append path (Text.Utf8.encode text) with
  | ok files => exact ⟨.ok (), rfl⟩
  | error fault => exact ⟨.error fault, rfl⟩

theorem write_run {values : Values} (encodable : AreEncodable values) (station : Station)
    (session : Session) :
    ∃ log, write values station session =
      (.ok (), { session with
        log, files := recorded station.environment values session.files }) := by
  rcases encodable with ⟨text, linesAre⟩
  unfold write recorded
  rw [linesAre]
  change ∃ log, (match station.environment.nonEmpty? "GITHUB_OUTPUT" with
    | none => _
    | some path => _ : Job Unit) station session = _
  cases station.environment.nonEmpty? "GITHUB_OUTPUT" with
  | none => exact ⟨session.log, rfl⟩
  | some path =>
      by_cases nothing : values.isEmpty = true
      · simp only [nothing, if_true]
        exact ⟨session.log, rfl⟩
      · simp only [nothing, Bool.false_eq_true, if_false]
        rcases append_run path text station session with ⟨result, appended⟩
        rw [Job.bind_run_ok (Job.attempt_run appended)]
        cases result with
        | ok written => exact ⟨_, rfl⟩
        | error fault => exact ⟨_, rfl⟩

/-! ## Reports -/

def reporting {α : Type} (job : Job α) (values : Except Failure α → Values) (done : String)
    (complaint : Failure → Wording) : Job α :=
  (do
    let value ← job
    write (values (.ok value))
    Job.info done
    return value).onFailure fun failure => do
      Job.error (complaint failure)
      write (values (.error failure))

/-- A report leaves the result as it is, and comes to files with that result. -/
theorem reporting_run {α : Type} (job : Job α) {values : Except Failure α → Values}
    (encodable : ∀ result, AreEncodable (values result)) (done : String)
    (complaint : Failure → Wording) (station : Station) (session : Session) :
    let ran := job station session
    ∃ log, reporting job values done complaint station session = (ran.1, { ran.2 with
      log, files := recorded station.environment (values ran.1) ran.2.files }) := by
  intro ran
  rcases found : ran with ⟨result, middle⟩
  cases result with
  | ok value =>
      rcases write_run (encodable (.ok value)) station middle with ⟨log, written⟩
      exact ⟨_, Job.onFailure_run_ok ((Job.bind_run_ok found).trans (Job.bind_run_ok written))⟩
  | error failure =>
      rcases write_run (encodable (.error failure)) station
        (Job.error (complaint failure) station middle).2 with ⟨log, written⟩
      exact ⟨log, Job.onFailure_run_error (Job.bind_run_error found) written⟩

end Steward.Output
