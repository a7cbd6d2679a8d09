import Steward.Proofs.Exchange

/-! Courses of jobs. A course relates the exchanges of a run to its result; a job takes a course if
each of its runs at a station keeps to it. The rules below follow the way in which jobs are put
together, so that the course of a job is found without looking into its session. -/

namespace Steward

/-! ## Runs -/

namespace Job

variable {α β γ : Type} {job : Job α} {station : Station} {before middle after : Session}

theorem bind_run_ok {next : α → Job β} {value : α}
    (ran : job station before = (.ok value, middle)) :
    (job >>= next) station before = next value station middle := by
  change Job.bind job next station before = _
  rw [Job.bind, ran]

theorem bind_run_error {next : α → Job β} {failure : Failure}
    (ran : job station before = (.error failure, middle)) :
    (job >>= next) station before = (.error failure, middle) := by
  change Job.bind job next station before = _
  rw [Job.bind, ran]

/-- What comes next depends on a job by its run alone. -/
theorem bind_run_congr {other : Job α} (next : α → Job β)
    (same : job station before = other station before) :
    (job >>= next) station before = (other >>= next) station before := by
  change Job.bind job next station before = Job.bind other next station before
  rw [Job.bind, Job.bind, same]

/-- Two jobs that go on alike from where a first one ends run alike after it. -/
theorem bind_run_next {next other : α → Job β}
    (alike : ∀ value middle, job station before = (.ok value, middle) →
      next value station middle = other value station middle) :
    (job >>= next) station before = (job >>= other) station before := by
  rcases ran : job station before with ⟨result, middle⟩
  cases result with
  | ok value => rw [bind_run_ok ran, bind_run_ok ran, alike value middle ran]
  | error failure => rw [bind_run_error ran, bind_run_error ran]

/-- A value that is changed at the end makes no other difference to a run. -/
theorem map_run (job : Job α) (change : α → β) :
    (do return change (← job) : Job β) station before =
      ((job station before).1.map change, (job station before).2) := by
  rcases ran : job station before with ⟨result, middle⟩
  cases result with
  | ok value => exact bind_run_ok ran
  | error failure => exact bind_run_error ran

theorem bind_pure_run (job : Job α) : job >>= pure = job := by
  funext station session
  rcases ran : job station session with ⟨result, middle⟩
  cases result with
  | ok value => exact bind_run_ok ran
  | error failure => exact bind_run_error ran

theorem bind_bind_run (job : Job α) (next : α → Job β) (last : β → Job γ) :
    job >>= next >>= last = job >>= fun value => next value >>= last := by
  funext station session
  rcases ran : job station session with ⟨result, middle⟩
  cases result with
  | error failure => rw [bind_run_error ran, bind_run_error (bind_run_error ran)]
  | ok value =>
      rw [bind_run_ok ran]
      rcases continued : next value station middle with ⟨found, after⟩
      have both := (bind_run_ok ran).trans continued
      cases found with
      | ok other => rw [bind_run_ok both, bind_run_ok continued]
      | error failure => rw [bind_run_error both, bind_run_error continued]

theorem lift_ok_bind (value : α) (next : α → Job β) :
    ((liftM (.ok value : Except Failure α) : Job α) >>= next) = next value := rfl

instance : LawfulMonad Job := .mk' Job bind_pure_run (fun _ _ => rfl) bind_bind_run

theorem attempt_run {result : Except Failure α} (ran : job station before = (result, after)) :
    job.attempt station before = (.ok result, after) := by
  rw [Job.attempt, ran]

theorem onFailure_run_ok {cleanup : Failure → Job Unit} {value : α}
    (ran : job station before = (.ok value, after)) :
    job.onFailure cleanup station before = (.ok value, after) :=
  bind_run_ok (attempt_run ran)

theorem onFailure_run_error {cleanup : Failure → Job Unit} {failure : Failure}
    (ran : job station before = (.error failure, middle))
    (cleaned : cleanup failure station middle = (.ok (), after)) :
    job.onFailure cleanup station before = (.error failure, after) :=
  (bind_run_ok (attempt_run ran)).trans (bind_run_ok cleaned)

theorem send_run (request : Request) :
    send request station before =
      (.ok (Answer.inTurn before.answers 0), before.asked request) := by
  cases answers : before.answers <;> simp [send, Session.asked, Answer.inTurn, answers]

end Job

/-- What exchanges a run may go through, with what result. -/
abbrev Course (α : Type) := List Exchange → Except Failure α → Prop

namespace Course

variable {α : Type}

def after (course : Course α) (before : List Exchange) : Course α := fun exchanges result =>
  course (before ++ exchanges) result

@[simp] theorem after_end {course : Course α} {before : List Exchange}
    {result : Except Failure α} : course.after before [] result ↔ course before result := by
  simp [after]

def settled (result : Except Failure α) : Course α := fun exchanges found =>
  exchanges = [] ∧ found = result

def quiet : Course α := fun exchanges _ => exchanges = []

def within (permitted : Request → Prop) : Course α := fun exchanges _ =>
  ∀ exchange ∈ exchanges, permitted exchange.request

def asks (request : Request) (result : Answer → Except Failure α) : Course α :=
  fun exchanges found => ∃ answer, exchanges = [⟨request, answer⟩] ∧ found = result answer

def succeeds (found : List Exchange → α → Prop) : Course α := fun exchanges result =>
  ∃ value, result = .ok value ∧ found exchanges value

variable {permitted : Request → Prop} {result : Except Failure α}

theorem within_nil : within permitted [] result := nofun

theorem within_asks {request : Request} {answered : Answer → Except Failure α}
    (allowed : permitted request) {exchanges : List Exchange}
    (asked : asks request answered exchanges result) : within permitted exchanges result := by
  rcases asked with ⟨answer, rfl, -⟩
  exact List.forall_mem_singleton.mpr allowed

end Course

/-- The run of a job from a session keeps to a course. -/
def Job.TakesFrom {α : Type} (job : Job α) (station : Station) (session : Session)
    (course : Course α) : Prop :=
  ∃ exchanges, session.Reaches exchanges (job station session).2 ∧
    course exchanges (job station session).1

def Job.Takes {α : Type} (job : Job α) (station : Station) (course : Course α) : Prop :=
  ∀ session, job.TakesFrom station session course

/-! ## Runs from one session -/

namespace Job.TakesFrom

variable {α β : Type} {station : Station} {session : Session}

/-- What comes next may depend on the session in which it starts. -/
theorem bindFrom {job : Job α} {next : α → Job β} {first : Course α} {course : Course β}
    (takes : job.TakesFrom station session first)
    (continues : ∀ exchanges value middle, session.Reaches exchanges middle →
      first exchanges (.ok value) → (next value).TakesFrom station middle (course.after exchanges))
    (stops : ∀ exchanges failure, first exchanges (.error failure) →
      course exchanges (.error failure)) :
    (job >>= next).TakesFrom station session course := by
  rcases takes with ⟨exchanges, reached, kept⟩
  unfold Job.TakesFrom
  rcases ran : job station session with ⟨result, middle⟩
  rw [ran] at reached kept
  cases result with
  | error failure =>
      rw [bind_run_error ran]
      exact ⟨exchanges, reached, stops _ _ kept⟩
  | ok value =>
      rw [bind_run_ok ran]
      rcases continues _ _ middle reached kept with ⟨further, farther, finished⟩
      exact ⟨exchanges ++ further, reached.trans farther, finished⟩

theorem bind {job : Job α} {next : α → Job β} {first : Course α} {course : Course β}
    (takes : job.TakesFrom station session first)
    (continues : ∀ exchanges value, first exchanges (.ok value) →
      (next value).Takes station (course.after exchanges))
    (stops : ∀ exchanges failure, first exchanges (.error failure) →
      course exchanges (.error failure)) :
    (job >>= next).TakesFrom station session course :=
  takes.bindFrom (fun exchanges value middle _ kept => continues exchanges value kept middle) stops

theorem weaken {job : Job α} {narrow wide : Course α}
    (takes : job.TakesFrom station session narrow)
    (included : ∀ exchanges result, narrow exchanges result → wide exchanges result) :
    job.TakesFrom station session wide := by
  rcases takes with ⟨exchanges, reached, kept⟩
  exact ⟨exchanges, reached, included _ _ kept⟩

/-- A step on values alone: it fails, or lets the job go on with what it found. -/
theorem lift {result : Except Failure α} {next : α → Job β} {course : Course β}
    (continues : ∀ value, result = .ok value → (next value).TakesFrom station session course)
    (stops : ∀ failure, result = .error failure → course [] (.error failure)) :
    ((liftM result : Job α) >>= next).TakesFrom station session course := by
  cases known : result with
  | ok value => exact continues value known
  | error failure => exact ⟨[], .refl session, stops failure known⟩

theorem files_eq {job : Job α} {course : Course α}
    (takes : job.TakesFrom station session course) :
    (job station session).2.files = session.files := by
  rcases takes with ⟨exchanges, reached, -⟩
  exact reached.files

/-- What is asked from a fresh session on is what the course permits. -/
theorem requests_within {job : Job α} {permitted : Request → Prop}
    (takes : job.TakesFrom station session (Course.within permitted))
    (fresh : session.requests = []) :
    ∀ request ∈ (job station session).2.requests, permitted request := by
  rcases takes with ⟨exchanges, reached, within⟩
  rw [reached.requests, fresh, List.nil_append]
  exact List.forall_mem_map.mpr within

theorem answersLeft {next : Nat → Job β} {course : Course β}
    (continues : (next session.answers.length).TakesFrom station session course) :
    (Job.answersLeft >>= next).TakesFrom station session course := continues

/-- A run says what it comes to, if nothing else. -/
theorem remembering {job : Job α} {course : Course α}
    (takes : job.TakesFrom station session course) :
    job.TakesFrom station session fun exchanges result =>
      course exchanges result ∧ result = (job station session).1 := by
  rcases takes with ⟨exchanges, reached, kept⟩
  exact ⟨exchanges, reached, kept, rfl⟩

theorem attempt {job : Job α} {course : Course α}
    (takes : job.TakesFrom station session course) :
    job.attempt.TakesFrom station session fun exchanges result =>
      ∃ found, result = .ok found ∧ course exchanges found := by
  rcases takes with ⟨exchanges, reached, kept⟩
  exact ⟨exchanges, reached, _, rfl, kept⟩

theorem bindAttempt {job : Job α} {next : Except Failure α → Job β} {first : Course α}
    {course : Course β} (takes : job.TakesFrom station session first)
    (continues : ∀ exchanges found, first exchanges found →
      (next found).Takes station (course.after exchanges)) :
    (job.attempt >>= next).TakesFrom station session course := by
  apply bind takes.attempt
  · intro exchanges found kept
    rcases kept with ⟨result, equal, kept⟩
    cases equal
    exact continues exchanges _ kept
  · intro exchanges failure kept
    rcases kept with ⟨result, equal, kept⟩
    cases equal

theorem named {job : Job α} {course : Course α} {bot : String}
    (takes : job.TakesFrom { station with bot } session course) :
    (job.named bot).TakesFrom station session course := takes

theorem onFailure {job : Job α} {cleanup : Failure → Job Unit} {course : Course α}
    (takes : job.TakesFrom station session course)
    (cleans : ∀ failure, (cleanup failure).Takes station (Course.settled (.ok ()))) :
    (job.onFailure cleanup).TakesFrom station session course := by
  apply bindAttempt takes
  intro exchanges found kept after
  cases found with
  | ok value => exact ⟨[], .refl after, Course.after_end.mpr kept⟩
  | error failure =>
      refine bind (cleans failure after) ?_ nofun
      intro further value cleaned last
      rw [cleaned.1]
      exact ⟨[], .refl last, Course.after_end.mpr (Course.after_end.mpr kept)⟩

end Job.TakesFrom

namespace Job.Takes

variable {α β : Type} {station : Station}

theorem weaken {job : Job α} {narrow wide : Course α} (takes : job.Takes station narrow)
    (included : ∀ exchanges result, narrow exchanges result → wide exchanges result) :
    job.Takes station wide :=
  fun session => (takes session).weaken included

/-! ## Ends -/

theorem ofExcept {result : Except Failure α} {course : Course α} (ends : course [] result) :
    (liftM result : Job α).Takes station course :=
  fun session => ⟨[], .refl session, ends⟩

theorem pure {value : α} {course : Course α} (ends : course [] (.ok value)) :
    (Pure.pure value : Job α).Takes station course :=
  fun session => ⟨[], .refl session, ends⟩

theorem send (request : Request) :
    (Job.send request).Takes station (Course.asks request .ok) := by
  intro session
  rw [Job.TakesFrom, send_run]
  exact ⟨_, .asked session request, _, rfl, rfl⟩

/-! ## Sequences -/

theorem bind {job : Job α} {next : α → Job β} {first : Course α} {course : Course β}
    (takes : job.Takes station first)
    (continues : ∀ exchanges value, first exchanges (.ok value) →
      (next value).Takes station (course.after exchanges))
    (stops : ∀ exchanges failure, first exchanges (.error failure) →
      course exchanges (.error failure)) :
    (job >>= next).Takes station course :=
  fun session => (takes session).bind continues stops

theorem bindOk {job : Job α} {next : α → Job β} {found : List Exchange → α → Prop}
    {course : Course β} (takes : job.Takes station (Course.succeeds found))
    (continues : ∀ exchanges value, found exchanges value →
      (next value).Takes station (course.after exchanges)) :
    (job >>= next).Takes station course := by
  apply bind takes
  · intro exchanges value kept
    rcases kept with ⟨_, same, kept⟩
    cases same
    exact continues exchanges value kept
  · intro exchanges failure kept
    rcases kept with ⟨_, same, -⟩
    cases same

theorem lift {result : Except Failure α} {next : α → Job β} {course : Course β}
    (continues : ∀ value, result = .ok value → (next value).Takes station course)
    (stops : ∀ failure, result = .error failure → course [] (.error failure)) :
    ((liftM result : Job α) >>= next).Takes station course :=
  fun session => .lift (fun value found => continues value found session) stops

theorem liftOk {result : Except Failure α} {value : α} {next : α → Job β} {course : Course β}
    (found : result = .ok value) (continues : (next value).Takes station course) :
    ((liftM result : Job α) >>= next).Takes station course := by
  subst found
  exact lift (fun _ equal => Except.ok.inj equal ▸ continues) nofun

theorem atStation {next : Station → Job β} {course : Course β}
    (continues : (next station).Takes station course) :
    (Job.station >>= next).Takes station course := continues

theorem withFiles {next : Files → Job β} {course : Course β}
    (continues : ∀ files, (next files).Takes station course) :
    (Job.files >>= next).Takes station course :=
  fun session => continues session.files session

/-- One request, and the rest by its answer. -/
theorem ask {job : Job α} {next : α → Job β} {request : Request}
    {result : Answer → Except Failure α} {course : Course β}
    (takes : job.Takes station (Course.asks request result))
    (continues : ∀ answer value, result answer = .ok value →
      (next value).Takes station (course.after [⟨request, answer⟩]))
    (stops : ∀ answer failure, result answer = .error failure →
      course [⟨request, answer⟩] (.error failure)) :
    (job >>= next).Takes station course := by
  apply bind takes
  · intro exchanges value asked
    rcases asked with ⟨answer, rfl, found⟩
    exact continues answer value found.symm
  · intro exchanges failure asked
    rcases asked with ⟨answer, rfl, found⟩
    exact stops answer failure found.symm

/-- One request that no answer makes fail. -/
theorem askOk {job : Job α} {next : α → Job β} {request : Request} {result : Answer → α}
    {course : Course β}
    (takes : job.Takes station (Course.asks request fun answer => .ok (result answer)))
    (continues : ∀ answer,
      (next (result answer)).Takes station (course.after [⟨request, answer⟩])) :
    (job >>= next).Takes station course := by
  refine ask takes ?_ nofun
  intro answer value found
  cases found
  exact continues answer

/-- A step that only leaves a trace in the session. -/
theorem remark {job : Job Unit} {next : Unit → Job β} {course : Course β}
    (takes : job.Takes station (Course.settled (.ok ())))
    (continues : (next ()).Takes station course) :
    (job >>= next).Takes station course := by
  apply bind takes
  · intro exchanges value settled
    rw [settled.1]
    exact continues
  · intro exchanges failure settled
    cases settled.2

/-- What is permitted throughout is permitted step by step. -/
theorem bindWithin {job : Job α} {next : α → Job β} {permitted : Request → Prop}
    (takes : job.Takes station (Course.within permitted))
    (continues : ∀ value, (next value).Takes station (Course.within permitted)) :
    (job >>= next).Takes station (Course.within permitted) := by
  refine bind takes ?_ fun exchanges failure allowed => allowed
  intro exchanges value allowed
  apply (continues value).weaken
  intro further result farther
  exact List.forall_mem_append.mpr ⟨allowed, farther⟩

theorem bindAttempt {job : Job α} {next : Except Failure α → Job β} {first : Course α}
    {course : Course β} (takes : job.Takes station first)
    (continues : ∀ exchanges found, first exchanges found →
      (next found).Takes station (course.after exchanges)) :
    (job.attempt >>= next).Takes station course :=
  fun session => (takes session).bindAttempt continues

/-! ## Remarks -/

theorem record (level : Level) (text : Wording) :
    (Job.record level text).Takes station (Course.settled (.ok ())) :=
  fun session => ⟨[], ⟨by simp [Job.record], by simp [Job.record], rfl, rfl⟩, rfl, rfl⟩

theorem pause (duration : Json) :
    (Job.pause duration).Takes station (Course.settled (.ok ())) :=
  fun session => ⟨[], ⟨by simp [Job.pause], by simp [Job.pause], rfl, rfl⟩, rfl, rfl⟩

theorem notify (notice : Notice) :
    (Job.notify notice).Takes station (Course.settled (.ok ())) :=
  fun session => ⟨[], ⟨by simp [Job.notify], by simp [Job.notify], rfl, rfl⟩, rfl, rfl⟩

theorem info {text : Wording} {next : Unit → Job β} {course : Course β}
    (continues : (next ()).Takes station course) :
    (Job.info text >>= next).Takes station course :=
  remark (record .info text) continues

end Job.Takes

end Steward
