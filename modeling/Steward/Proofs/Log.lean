import Steward.Proofs.Action
import Steward.Proofs.Settings

/-! What jobs log. A job is confined to some lines if it adds no others to the log; this is so of a
job that is put together from such jobs. -/

namespace Steward

def Job.Logs {α : Type} (job : Job α) (station : Station) (permitted : Wording → Prop) : Prop :=
  ∀ session, ∃ lines, (job station session).2.log = session.log ++ lines ∧
    ∀ line ∈ lines, permitted line.text

namespace Job.Logs

variable {α β : Type} {station : Station} {permitted : Wording → Prop}

theorem silent {job : Job α} (same : ∀ session, (job station session).2.log = session.log) :
    job.Logs station permitted :=
  fun session => ⟨[], by rw [same, List.append_nil], nofun⟩

theorem pure (value : α) : (Pure.pure value : Job α).Logs station permitted := silent fun _ => rfl

theorem ofExcept (result : Except Failure α) : (liftM result : Job α).Logs station permitted :=
  silent fun _ => rfl

theorem record {level : Level} {text : Wording} (allowed : permitted text) :
    (Job.record level text).Logs station permitted := by
  intro session
  refine ⟨[⟨level, station.bot, text⟩], rfl, fun line member => ?_⟩
  rw [List.mem_singleton.mp member]
  exact allowed

theorem bind {job : Job α} {next : α → Job β} (first : job.Logs station permitted)
    (rest : ∀ value, (next value).Logs station permitted) :
    (job >>= next).Logs station permitted := by
  intro session
  rcases ran : job station session with ⟨result, middle⟩
  rcases first session with ⟨lines, logged, allowed⟩
  rw [ran] at logged
  cases result with
  | ok value =>
      rw [bind_run_ok ran]
      rcases rest value middle with ⟨more, loggedMore, allowedMore⟩
      refine ⟨lines ++ more, by rw [loggedMore, logged, List.append_assoc], fun line member => ?_⟩
      exact (List.mem_append.mp member).elim (allowed line) (allowedMore line)
  | error failure =>
      rw [bind_run_error ran]
      exact ⟨lines, logged, allowed⟩

theorem lift {result : Except Failure α} {next : α → Job β}
    (rest : ∀ value, result = .ok value → (next value).Logs station permitted) :
    ((liftM result : Job α) >>= next).Logs station permitted := by
  cases found : result with
  | ok value => exact rest value found
  | error failure => exact silent fun _ => rfl

theorem info {text : Wording} {next : Unit → Job β} (allowed : permitted text)
    (rest : (next ()).Logs station permitted) :
    (Job.info text >>= next).Logs station permitted :=
  bind (record allowed) fun _ => rest

theorem atStation {next : Station → Job β} (rest : (next station).Logs station permitted) :
    (Job.station >>= next).Logs station permitted := rest

theorem attempt {job : Job α} (logs : job.Logs station permitted) :
    job.attempt.Logs station permitted := logs

theorem onFailure {job : Job α} {cleanup : Failure → Job Unit} (logs : job.Logs station permitted)
    (cleans : ∀ failure, (cleanup failure).Logs station permitted) :
    (job.onFailure cleanup).Logs station permitted := by
  refine bind logs.attempt fun result => ?_
  cases result with
  | ok value => exact pure value
  | error failure => exact bind (cleans failure) fun _ => silent fun _ => rfl

theorem named {job : Job α} {bot : String} (logs : job.Logs { station with bot } permitted) :
    (job.named bot).Logs station permitted := logs

end Job.Logs

/-! ## Parts of jobs -/

section

variable {station : Station} {permitted : Wording → Prop}

theorem Service.logs_call (method : String) (path : Wording) (body parameters : Json) :
    (call method path body parameters).Logs station permitted :=
  .atStation (.bind (.silent fun _ => rfl) fun _ => .ofExcept _)

/-- A change that is checked before its request logs its success or its failure, and nothing
else. -/
theorem Action.logs_guarded {α : Type} {check : Except Failure α} {request : α → Job Json}
    {complaint : Wording → Wording} {success : Wording}
    (logs : ∀ value, (request value).Logs station permitted)
    (complains : ∀ reason, permitted (complaint reason)) (allowed : permitted success) :
    (guarded ((liftM check : Job α) >>= request) (fun reason => Job.error (complaint reason))
      success).Logs station permitted := by
  have silent : ((liftM check : Job α) >>= request).Logs station permitted :=
    .lift fun value _ => logs value
  refine .bind silent.attempt fun result => ?_
  cases result with
  | ok value => exact .info allowed (.pure _)
  | error failure => exact .bind (.record (complains _)) fun _ => .pure _

theorem Settings.logs_load : load.Logs station permitted := by
  refine .atStation (.bind (.silent fun _ => rfl) fun files => .lift fun content _ => ?_)
  cases content with
  | none => exact .pure _
  | some bytes =>
      refine .lift fun text _ => .lift fun reading _ => ?_
      cases reading.complaint with
      | none => exact .pure _
      | some complaint => exact .bind (.silent fun _ => rfl) fun _ => .pure _

theorem Settings.Source.logs_job (source : Source) : source.job.Logs station permitted := by
  cases source with
  | given settings => exact .pure _
  | found => exact logs_load

end

end Steward
