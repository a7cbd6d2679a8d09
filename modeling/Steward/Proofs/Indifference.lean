import Steward.Proofs.Output

/-! Jobs that are indifferent to the answers to some requests. Two runs from the same files, with
answers that agree for all other requests, make the same requests and come to the same result and
the same files. The rules below follow the way in which jobs are put together. -/

namespace Steward

/-! ## Agreement -/

/-- Requests get the same answers from two scripts, unless they are overlooked. -/
def Answer.Agree (overlooked : Request → Prop) (requests : List Request)
    (first second : List Answer) : Prop :=
  ∀ turn request, requests[turn]? = some request → ¬overlooked request →
    inTurn first turn = inTurn second turn

section

variable {overlooked : Request → Prop} {front rest : List Request} {first second : List Answer}

theorem Answer.Agree.earlier (agree : Agree overlooked (front ++ rest) first second) :
    Agree overlooked front first second := by
  intro turn request found
  apply agree turn request
  rw [List.getElem?_append_left (List.getElem?_eq_some_iff.mp found).1, found]

theorem Answer.Agree.later (agree : Agree overlooked (front ++ rest) first second) :
    Agree overlooked rest (first.drop front.length) (second.drop front.length) := by
  intro turn request found heeded
  rw [inTurn_drop, inTurn_drop]
  apply agree (front.length + turn) request _ heeded
  rw [List.getElem?_append_right (Nat.le_add_right _ _), Nat.add_sub_cancel_left, found]

/-- Scripts that differ in the first answer alone agree if the first request is overlooked. -/
theorem Answer.Agree.of_first {requests : List Request} {answer other : Answer}
    {answers : List Answer} (overlooks : ∀ request ∈ requests.head?, overlooked request) :
    Agree overlooked requests (answer :: answers) (other :: answers) := by
  intro turn request found heeded
  cases turn with
  | zero =>
      rw [← List.head?_eq_getElem?] at found
      exact absurd (overlooks request found) heeded
  | succ turn => rfl

end

/-! ## Indifferent jobs -/

/-- A job asks from one session to the next, and runs alike where the answers agree. -/
structure Job.Indifferent {α : Type} (overlooked : Request → Prop) (station : Station)
    (job : Job α) : Prop where
  asks (session : Session) : ∃ requests,
    (job station session).2.requests = session.requests ++ requests ∧
      (job station session).2.answers = session.answers.drop requests.length
  alike {first second : Session} {requests : List Request} (files : second.files = first.files)
    (asked : (job station first).2.requests = first.requests ++ requests)
    (agree : Answer.Agree overlooked requests first.answers second.answers) :
    (job station second).1 = (job station first).1 ∧
      (job station second).2.requests = second.requests ++ requests ∧
      (job station second).2.files = (job station first).2.files

theorem Job.TakesFrom.asks {α : Type} {job : Job α} {station : Station} {session : Session}
    {course : Course α} (takes : job.TakesFrom station session course) : ∃ requests,
    (job station session).2.requests = session.requests ++ requests ∧
      (job station session).2.answers = session.answers.drop requests.length := by
  rcases takes with ⟨exchanges, reached, -⟩
  exact ⟨exchanges.map Exchange.request, reached.requests, by rw [reached.answers, List.length_map]⟩

namespace Job.Indifferent

variable {α β : Type} {overlooked : Request → Prop} {station : Station}

theorem answers_eq {job : Job α} {session : Session} {requests : List Request}
    (indifferent : job.Indifferent overlooked station)
    (asked : (job station session).2.requests = session.requests ++ requests) :
    (job station session).2.answers = session.answers.drop requests.length := by
  rcases indifferent.asks session with ⟨others, othersAsked, left⟩
  rw [left, List.append_cancel_left (othersAsked.symm.trans asked)]

/-! ## Single steps -/

/-- A job that makes one request is indifferent if the request is not overlooked, or if its result
is the same for all answers. -/
theorem ofAsks {job : Job α} {request : Request} {result : Answer → Except Failure α}
    (takes : job.Takes station (Course.asks request result))
    (heeded : ¬overlooked request ∨ ∀ answer other, result answer = result other) :
    job.Indifferent overlooked station where
  asks session := (takes session).asks
  alike := by
    intro first second requests files asked agree
    rcases takes first with ⟨_, reached, answer, rfl, found⟩
    rcases takes second with ⟨_, reachedOther, other, rfl, foundOther⟩
    have only : requests = [request] :=
      List.append_cancel_left (asked.symm.trans reached.requests)
    subst only
    refine ⟨?_, reachedOther.requests, by rw [reached.files, reachedOther.files, files]⟩
    rw [found, foundOther]
    rcases heeded with heeded | same
    · have told : answer = Answer.inTurn first.answers 0 := reached.answer_eq
      have toldOther : other = Answer.inTurn second.answers 0 := reachedOther.answer_eq
      rw [told, toldOther, agree 0 request rfl heeded]
    · exact same other answer

/-- A job that asks nothing, and whose result is known. -/
theorem ofSettled {job : Job α} {result : Except Failure α}
    (takes : job.Takes station (Course.settled result)) : job.Indifferent overlooked station where
  asks session := (takes session).asks
  alike := by
    intro first second requests files asked agree
    rcases takes first with ⟨_, reached, rfl, found⟩
    rcases takes second with ⟨_, reachedOther, rfl, foundOther⟩
    have none_ : requests = [] := List.append_cancel_left (asked.symm.trans reached.requests)
    subst none_
    exact ⟨by rw [found, foundOther], reachedOther.requests,
      by rw [reached.files, reachedOther.files, files]⟩

theorem pure (value : α) : (Pure.pure value : Job α).Indifferent overlooked station :=
  ofSettled (.pure ⟨rfl, rfl⟩)

theorem ofExcept (result : Except Failure α) :
    (liftM result : Job α).Indifferent overlooked station :=
  ofSettled (.ofExcept ⟨rfl, rfl⟩)

theorem files : Job.files.Indifferent overlooked station where
  asks session := ⟨[], (List.append_nil _).symm, rfl⟩
  alike := by
    intro first second requests files asked agree
    have none_ : requests = [] :=
      List.append_cancel_left (asked.symm.trans (List.append_nil _).symm)
    subst none_
    exact ⟨congrArg Except.ok files, (List.append_nil _).symm, files⟩

/-- What is written depends on nothing that an answer could change. -/
theorem write {values : Output.Values} (encodable : Output.AreEncodable values) :
    (Output.write values).Indifferent overlooked station where
  asks session := by
    rcases Output.write_run encodable station session with ⟨log, written⟩
    rw [written]
    exact ⟨[], (List.append_nil _).symm, rfl⟩
  alike := by
    intro first second requests files asked agree
    rcases Output.write_run encodable station first with ⟨log, written⟩
    rcases Output.write_run encodable station second with ⟨otherLog, otherWritten⟩
    rw [written] at asked
    have none_ : requests = [] :=
      List.append_cancel_left (asked.symm.trans (List.append_nil _).symm)
    subst none_
    rw [written, otherWritten, files]
    exact ⟨rfl, (List.append_nil _).symm, rfl⟩

/-! ## Sequences -/

theorem bind {job : Job α} {next : α → Job β} (indifferent : job.Indifferent overlooked station)
    (continues : ∀ value, (next value).Indifferent overlooked station) :
    (job >>= next).Indifferent overlooked station where
  asks session := by
    rcases indifferent.asks session with ⟨front, asked, left⟩
    rcases ran : job station session with ⟨result, middle⟩
    rw [ran] at asked left
    cases result with
    | error failure =>
        rw [bind_run_error ran]
        exact ⟨front, asked, left⟩
    | ok value =>
        rcases (continues value).asks middle with ⟨rest, askedRest, leftRest⟩
        rw [bind_run_ok ran]
        refine ⟨front ++ rest, ?_, ?_⟩
        · rw [askedRest, asked, List.append_assoc]
        · rw [leftRest, left, List.drop_drop, List.length_append]
  alike := by
    intro first second requests files asked agree
    rcases indifferent.asks first with ⟨front, askedFront, left⟩
    rcases ran : job station first with ⟨result, middle⟩
    rcases ranOther : job station second with ⟨resultOther, middleOther⟩
    -- The first steps run alike as soon as the answers to their own requests agree.
    have begins (agreeFront : Answer.Agree overlooked front first.answers second.answers) :
        resultOther = result ∧ middleOther.requests = second.requests ++ front ∧
          middleOther.files = middle.files ∧
          middleOther.answers = second.answers.drop front.length := by
      have begun := indifferent.alike files askedFront agreeFront
      have leftOther := indifferent.answers_eq begun.2.1
      rw [ran, ranOther] at begun
      rw [ranOther] at leftOther
      exact ⟨begun.1, begun.2.1, begun.2.2, leftOther⟩
    rw [ran] at askedFront left
    cases result with
    | error failure =>
        rw [bind_run_error ran] at asked ⊢
        have only : requests = front := List.append_cancel_left (asked.symm.trans askedFront)
        subst only
        rcases begins agree with ⟨rfl, askedOther, filesOther, -⟩
        rw [bind_run_error ranOther]
        exact ⟨rfl, askedOther, filesOther⟩
    | ok value =>
        rw [bind_run_ok ran] at asked ⊢
        rcases (continues value).asks middle with ⟨rest, askedRest, -⟩
        have split : requests = front ++ rest := by
          rw [askedRest, askedFront, List.append_assoc] at asked
          exact (List.append_cancel_left asked).symm
        subst split
        rcases begins agree.earlier with ⟨rfl, askedOther, filesOther, leftOther⟩
        rw [bind_run_ok ranOther]
        have agreeRest := agree.later
        rw [← left, ← leftOther] at agreeRest
        have ended := (continues value).alike filesOther askedRest agreeRest
        rw [askedOther, List.append_assoc] at ended
        exact ended

theorem lift {result : Except Failure α} {next : α → Job β}
    (continues : ∀ value, (next value).Indifferent overlooked station) :
    ((liftM result : Job α) >>= next).Indifferent overlooked station :=
  bind (ofExcept result) continues

theorem atStation {next : Station → Job β}
    (continues : (next station).Indifferent overlooked station) :
    (Job.station >>= next).Indifferent overlooked station where
  asks := continues.asks
  alike := continues.alike

theorem remark {job : Job Unit} {next : Unit → Job β}
    (takes : job.Takes station (Course.settled (.ok ())))
    (continues : (next ()).Indifferent overlooked station) :
    (job >>= next).Indifferent overlooked station :=
  bind (ofSettled takes) fun _ => continues

theorem info {text : Wording} {next : Unit → Job β}
    (continues : (next ()).Indifferent overlooked station) :
    (Job.info text >>= next).Indifferent overlooked station :=
  remark (.record .info text) continues

theorem choice {condition : Prop} [Decidable condition] {job other : Job α}
    (holds : job.Indifferent overlooked station) (fails : other.Indifferent overlooked station) :
    (if condition then job else other).Indifferent overlooked station := by
  split
  · exact holds
  · exact fails

/-- A request whose answer makes no difference to what comes next. -/
theorem ignoring {job : Job α} {next : Job β} {request : Request} {result : Answer → α}
    (takes : job.Takes station (Course.asks request fun answer => .ok (result answer)))
    (continues : next.Indifferent overlooked station) :
    (job >>= fun _ => next).Indifferent overlooked station := by
  have asked : (job >>= fun _ => Pure.pure () : Job Unit).Takes station
      (Course.asks request fun _ => .ok ()) :=
    .askOk takes fun answer => .pure ⟨answer, rfl, rfl⟩
  have whole : (job >>= fun _ => next) =
      (job >>= fun _ => Pure.pure ()) >>= fun _ : Unit => next := by
    simp only [bind_assoc, pure_bind]
  rw [whole]
  exact bind (ofAsks asked (.inr fun _ _ => rfl)) fun _ => continues

theorem attempt {job : Job α} (indifferent : job.Indifferent overlooked station) :
    job.attempt.Indifferent overlooked station where
  asks := indifferent.asks
  alike := by
    intro first second requests files asked agree
    have alike := indifferent.alike files asked agree
    exact ⟨congrArg Except.ok alike.1, alike.2⟩

theorem bindAttempt {job : Job α} {next : Except Failure α → Job β}
    (indifferent : job.Indifferent overlooked station)
    (continues : ∀ found, (next found).Indifferent overlooked station) :
    (job.attempt >>= next).Indifferent overlooked station :=
  bind indifferent.attempt continues

theorem onFailure {job : Job α} {cleanup : Failure → Job Unit}
    (indifferent : job.Indifferent overlooked station)
    (cleans : ∀ failure, (cleanup failure).Indifferent overlooked station) :
    (job.onFailure cleanup).Indifferent overlooked station := by
  refine bindAttempt indifferent fun found => ?_
  cases found with
  | ok value => exact pure value
  | error failure =>
      exact bind (cleans failure) fun _ => ofExcept (.error failure)

theorem named {job : Job α} {bot : String}
    (indifferent : job.Indifferent overlooked { station with bot }) :
    (job.named bot).Indifferent overlooked station where
  asks := indifferent.asks
  alike := indifferent.alike

theorem mapM {items : List α} {job : α → Job β}
    (indifferent : ∀ item, (job item).Indifferent overlooked station) :
    (items.mapM job).Indifferent overlooked station := by
  induction items with
  | nil =>
      rw [List.mapM_nil]
      exact pure []
  | cons item rest induction =>
      rw [List.mapM_cons]
      exact bind (indifferent item) fun value => bind induction fun others => pure (value :: others)

end Job.Indifferent

end Steward
