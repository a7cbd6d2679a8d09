import Steward.Proofs.Conflict

/-! Polls and the pauses between them. The first answer that does not leave the matter open decides,
and a pause comes after each answer before it; without one, every attempt is made and only the last
is not followed by a pause. -/

namespace Steward

/-- A session comes to another by requests of one kind, with pauses of one length. The first pause
comes after the first request, and each other one after one request more. -/
structure Session.Polls (before : Session) (request : Request) (delay : Json) (asked paused : Nat)
    (after : Session) : Prop where
  requests : after.requests = before.requests ++ List.replicate asked request
  answers : after.answers = before.answers.drop asked
  waits : after.waits = before.waits ++ (List.range paused).map fun turn =>
    ⟨before.requests.length + turn + 1, delay⟩

theorem Session.Polls.trans {before middle after : Session} {request : Request} {delay : Json}
    {asked paused later pausedLater allAsked allPaused : Nat}
    (polls : before.Polls request delay asked paused middle)
    (further : middle.Polls request delay later pausedLater after)
    (aligned : paused = asked ∨ pausedLater = 0) (requests : asked + later = allAsked)
    (pauses : paused + pausedLater = allPaused) :
    before.Polls request delay allAsked allPaused after := by
  subst requests pauses
  constructor
  · rw [further.requests, polls.requests, List.append_assoc, List.replicate_append_replicate]
  · rw [further.answers, polls.answers, List.drop_drop]
  · rw [further.waits, polls.waits, polls.requests, List.append_assoc, List.range_add,
      List.map_append, List.map_map, List.length_append, List.length_replicate]
    rcases aligned with rfl | rfl
    · simp [Nat.add_assoc]
    · simp

namespace Conflict

/-! ## Steps -/

section

variable (station : Station) (repository : Repository) (number attempts : Int) (delay : Json)

/-- A poll that leaves the matter open is followed by the others, after a pause if there are any. -/
theorem poll_waits (left : Nat) {session : Session}
    (open_ : mergeableIn (Answer.inTurn session.answers 0) = .ok .null) :
    ∃ middle,
      poll repository number attempts delay (left + 1) station session =
        poll repository number attempts delay left station middle ∧
      session.Polls (.pull station.service repository number) delay 1 (min left 1) middle := by
  unfold mergeableIn at open_
  rcases Except.bind_eq_ok_iff.mp open_ with ⟨pull, decoded, null⟩
  have ran : Service.getPull repository number station session = (.ok pull, _) :=
    (Service.call_run _ _ _ _ _).trans (by rw [decoded])
  rw [poll, Job.bind_run_ok ran, null]
  cases left with
  | zero => exact ⟨_, rfl, rfl, rfl, (List.append_nil _).symm⟩
  | succ left =>
      refine ⟨_, rfl, rfl, rfl, ?_⟩
      rw [Nat.min_eq_right (Nat.le_add_left 1 left)]
      simp [Session.asked]

/-- A poll that settles the matter, or fails, is the last. -/
theorem poll_ends (left : Nat) {session : Session}
    (known : mergeableIn (Answer.inTurn session.answers 0) ≠ .ok .null) :
    (poll repository number attempts delay (left + 1) station session).1 =
        (mergeableIn (Answer.inTurn session.answers 0)).map (fun mergeable => !mergeable.isTrue) ∧
      session.Polls (.pull station.service repository number) delay 1 0
        (poll repository number attempts delay (left + 1) station session).2 := by
  unfold mergeableIn at known ⊢
  have ran : Service.getPull repository number station session = (_, _) :=
    Service.call_run _ _ _ _ _
  cases decoded : Service.decode (Answer.inTurn session.answers 0) with
  | error failure =>
      rw [decoded] at ran
      rw [poll, Job.bind_run_error ran]
      exact ⟨rfl, rfl, rfl, (List.append_nil _).symm⟩
  | ok pull =>
      rw [decoded] at ran known
      rw [poll, Job.bind_run_ok ran, Except.ok_bind]
      rw [Except.ok_bind] at known
      cases found : pull.field "mergeable" with
      | error failure => exact ⟨rfl, rfl, rfl, (List.append_nil _).symm⟩
      | ok mergeable =>
          cases pull with
          | object members =>
              cases mergeable with
              | null => exact absurd found known
              | _ => exact ⟨rfl, rfl, rfl, (List.append_nil _).symm⟩
          | _ => cases found

/-! ## Runs -/

/-- Without an answer that settles the matter there is a pause between any two polls. -/
theorem poll_undecided (left : Nat) (session : Session)
    (open_ : ∀ turn < left, mergeableIn (Answer.inTurn session.answers turn) = .ok .null) :
    let run := poll repository number attempts delay left station session
    run.1 = .ok false ∧
      session.Polls (.pull station.service repository number) delay left (left - 1) run.2 := by
  intro run
  induction left generalizing session with
  | zero => exact ⟨rfl, (List.append_nil _).symm, rfl, (List.append_nil _).symm⟩
  | succ left induction =>
      rcases poll_waits station repository number attempts delay left
        (open_ 0 (Nat.zero_lt_succ _)) with ⟨middle, same, polls⟩
      have openLater : ∀ turn < left,
          mergeableIn (Answer.inTurn middle.answers turn) = .ok .null := by
        intro turn before
        rw [polls.answers, Answer.inTurn_drop]
        exact open_ _ (by omega)
      rcases induction middle openLater with ⟨result, further⟩
      simp only [run, same]
      exact ⟨result, polls.trans further (by omega) (by omega) (by omega)⟩

/-- The first answer that settles the matter, or fails, decides. -/
theorem poll_decided {turn left : Nat} {session : Session} (inside : turn < left)
    (open_ : ∀ earlier < turn, mergeableIn (Answer.inTurn session.answers earlier) = .ok .null)
    (known : mergeableIn (Answer.inTurn session.answers turn) ≠ .ok .null) :
    let run := poll repository number attempts delay left station session
    run.1 = (mergeableIn (Answer.inTurn session.answers turn)).map
        (fun mergeable => !mergeable.isTrue) ∧
      session.Polls (.pull station.service repository number) delay (turn + 1) turn run.2 := by
  intro run
  induction turn generalizing left session with
  | zero =>
      cases left with
      | zero => omega
      | succ left => exact poll_ends station repository number attempts delay left known
  | succ turn induction =>
      cases left with
      | zero => omega
      | succ left =>
          rcases poll_waits station repository number attempts delay left
            (open_ 0 (Nat.zero_lt_succ _)) with ⟨middle, same, polls⟩
          have answerLater (later : Nat) : Answer.inTurn middle.answers later =
              Answer.inTurn session.answers (later + 1) := by
            rw [polls.answers, Answer.inTurn_drop, Nat.add_comm]
          rw [← answerLater] at known ⊢
          have openLater : ∀ earlier < turn,
              mergeableIn (Answer.inTurn middle.answers earlier) = .ok .null := by
            intro earlier before
            rw [answerLater]
            exact open_ _ (by omega)
          rcases induction (Nat.lt_of_succ_lt_succ inside) openLater known with ⟨result, further⟩
          simp only [run, same]
          exact ⟨result, polls.trans further (by omega) (by omega) (by omega)⟩

end

/-! ## Answers -/

def IsOpen (answer : Answer) : Prop :=
  ∃ members, Service.Carries answer (.object members) ∧
    Json.lookup members "mergeable" = .null

def Settles (answer : Answer) (mergeable : Json) : Prop :=
  mergeable ≠ .null ∧ ∃ members, Service.Carries answer (.object members) ∧
    Json.lookup members "mergeable" = mergeable

inductive Fails : Answer → Failure → Prop
  | denied {answer : Answer} {failure : Failure} (denies : Service.Denies answer failure) :
      Fails answer failure
  | shapeless {answer : Answer} {value : Json} (carries : Service.Carries answer value)
      (other : ∀ members, value ≠ .object members) : Fails answer (.lacks value.kind "get")

section

variable {answer : Answer}

theorem mergeableIn_eq_ok_iff {mergeable : Json} :
    mergeableIn answer = .ok mergeable ↔ ∃ members, Service.Carries answer (.object members) ∧
      Json.lookup members "mergeable" = mergeable := by
  rw [mergeableIn, Except.bind_eq_ok_iff]
  constructor
  · intro read
    rcases read with ⟨pull, decoded, found⟩
    cases pull with
    | object members => exact ⟨members, Service.decode_eq_ok_iff.mp decoded, Except.ok.inj found⟩
    | _ => cases found
  · intro told
    rcases told with ⟨members, carries, rfl⟩
    exact ⟨.object members, Service.decode_eq_ok_iff.mpr carries, rfl⟩

theorem fails_of_mergeableIn {failure : Failure} (failed : mergeableIn answer = .error failure) :
    Fails answer failure := by
  unfold mergeableIn at failed
  cases decoded : Service.decode answer with
  | error other =>
      rw [decoded] at failed
      cases failed
      exact .denied (Service.decode_eq_error_iff.mp decoded)
  | ok pull =>
      rw [decoded, Except.ok_bind] at failed
      have carries := Service.decode_eq_ok_iff.mp decoded
      cases pull with
      | object members => cases failed
      | _ =>
          cases failed
          exact .shapeless carries nofun

theorem isOpen_of_silent {status : Int} (success : status < 400) : IsOpen (.reply status "") :=
  ⟨[], .silent success, rfl⟩

end

/-- Polls go on, with a pause between any two of them, while the answers leave the matter open. The
first other answer decides: it is the last, and what it says, or its failure, is the result. If
there is none within the attempts, all of these are made and there is no conflict. An empty body
leaves the matter open. -/
theorem check_decided_by_first (repository : Repository) (number attempts : Int) (delay : Json)
    (station : Station) (session : Session) :
    let run := check repository number attempts delay station session
    let answer (turn : Nat) := Answer.inTurn session.answers turn
    let request := Request.pull station.service repository number
    ((∀ turn < attempts.toNat, IsOpen (answer turn)) →
      run.1 = .ok false ∧
        session.Polls request delay attempts.toNat (attempts - 1).toNat run.2) ∧
    (∀ turn < attempts.toNat, (∀ earlier < turn, IsOpen (answer earlier)) →
      ¬IsOpen (answer turn) →
      session.Polls request delay (turn + 1) turn run.2 ∧
        ((∃ mergeable conflicts, Settles (answer turn) mergeable ∧ run.1 = .ok conflicts ∧
            (conflicts = true ↔ mergeable ≠ .bool true)) ∨
          ∃ failure, Fails (answer turn) failure ∧ run.1 = .error failure)) ∧
    ∀ status < 400, IsOpen (.reply status "") := by
  intro run answer request
  refine ⟨?_, ?_, fun status success => isOpen_of_silent success⟩
  · intro open_
    rcases poll_undecided station repository number attempts delay attempts.toNat session
      (fun turn before => mergeableIn_eq_ok_iff.mpr (open_ turn before)) with ⟨result, polls⟩
    have pauses : attempts.toNat - 1 = (attempts - 1).toNat := by omega
    exact ⟨result, pauses ▸ polls⟩
  · intro turn inside open_ known
    have unopened : mergeableIn (answer turn) ≠ .ok .null := fun null =>
      known (mergeableIn_eq_ok_iff.mp null)
    rcases poll_decided station repository number attempts delay inside
      (fun earlier before => mergeableIn_eq_ok_iff.mpr (open_ earlier before)) unopened with
      ⟨result, polls⟩
    refine ⟨polls, ?_⟩
    cases read : mergeableIn (answer turn) with
    | error failure =>
        refine .inr ⟨failure, fails_of_mergeableIn read, ?_⟩
        exact result.trans (congrArg (Except.map _) read)
    | ok mergeable =>
        have known : mergeable ≠ .null := fun null => unopened (null ▸ read)
        refine .inl ⟨mergeable, !mergeable.isTrue, ⟨known, mergeableIn_eq_ok_iff.mp read⟩, ?_, ?_⟩
        · exact result.trans (congrArg (Except.map _) read)
        · simp [← Json.isTrue_iff]

/-- A value that only counts as true is a conflict, and the pause is before the second request. -/
example :
    let station : Station := ⟨"on-commit", "https://api.github.com", "token", [], "12:00:00"⟩
    let answers : List Answer := [.reply 200 "", .reply 200 "\x7b\"mergeable\": 1\x7d"]
    let run := check ⟨"hiero", "sdk"⟩ 8 3 (.integer 2) station (.start answers [])
    run.1.toOption = some true ∧ run.2.requests.length = 2 ∧
      run.2.waits.map Wait.requestsBefore = [1] := by
  decide +kernel

end Conflict

end Steward
