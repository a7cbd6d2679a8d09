import Steward.Job

/-! What passes between a job and the service: requests, each with the answer that it got. A session
gives answers in their order, and the standard one when it has no more. -/

namespace Steward

def Answer.inTurn (answers : List Answer) (turn : Nat) : Answer := answers[turn]?.getD .standard

theorem Answer.inTurn_drop (answers : List Answer) (passed turn : Nat) :
    inTurn (answers.drop passed) turn = inTurn answers (passed + turn) := by
  rw [inTurn, inTurn, List.getElem?_drop]

structure Exchange where
  request : Request
  answer : Answer
deriving Repr

namespace Exchange

def pair (answers : List Answer) (requests : List Request) : List Exchange :=
  requests.mapIdx fun position request => ⟨request, Answer.inTurn answers position⟩

theorem pair_cons (answers : List Answer) (request : Request) (rest : List Request) :
    pair answers (request :: rest) =
      ⟨request, Answer.inTurn answers 0⟩ :: pair (answers.drop 1) rest := by
  simp [pair, Answer.inTurn, List.mapIdx_cons]

theorem pair_append (answers : List Answer) (first second : List Request) :
    pair answers (first ++ second) =
      pair answers first ++ pair (answers.drop first.length) second := by
  simp [pair, Answer.inTurn, List.mapIdx_append, Nat.add_comm]

/-- Exchanges with the answers in order are so in each of two parts, where the second part goes on
with the answers that the first has left. -/
theorem pair_parts {answers : List Answer} {first second : List Exchange}
    (told : first ++ second = pair answers ((first ++ second).map request)) :
    first = pair answers (first.map request) ∧
      second = pair (answers.drop first.length) (second.map request) := by
  rw [List.map_append, pair_append, List.length_map] at told
  exact List.append_inj told (by simp [pair])

/-- The first of some exchanges in order has the next answer, and the others are in order after
it. -/
theorem told_cons {answers : List Answer} {exchange : Exchange} {rest : List Exchange}
    (told : exchange :: rest = pair answers ((exchange :: rest).map request)) :
    exchange.answer = Answer.inTurn answers 0 ∧
      rest = pair (answers.drop 1) (rest.map request) := by
  rw [List.map_cons, pair_cons] at told
  rcases List.cons.inj told with ⟨first, others⟩
  exact ⟨congrArg answer first, others⟩

@[simp] theorem map_request_pair (answers : List Answer) (requests : List Request) :
    (pair answers requests).map request = requests := by
  induction requests generalizing answers with
  | nil => rfl
  | cons first rest induction => rw [pair_cons, List.map_cons, induction]

theorem answer_of_pair {answers : List Answer} {requests : List Request}
    {exchange : Exchange} {turn : Nat}
    (found : (pair answers requests)[turn]? = some exchange) :
    exchange.answer = Answer.inTurn answers turn := by
  rw [pair, List.getElem?_mapIdx] at found
  rcases Option.map_eq_some_iff.mp found with ⟨request, -, rfl⟩
  rfl

end Exchange

/-! ## Sessions -/

def Session.asked (session : Session) (request : Request) : Session :=
  { session with answers := session.answers.drop 1, requests := session.requests ++ [request] }

/-- A session comes to another by exchanges alone: its files stay as they are. Of the log, the
pauses and the notices nothing is said. -/
structure Session.Reaches (before : Session) (exchanges : List Exchange) (after : Session) :
    Prop where
  requests : after.requests = before.requests ++ exchanges.map Exchange.request
  answers : after.answers = before.answers.drop exchanges.length
  told : exchanges = Exchange.pair before.answers (exchanges.map Exchange.request)
  files : after.files = before.files

namespace Session.Reaches

theorem refl (session : Session) : session.Reaches [] session where
  requests := by simp
  answers := by simp
  told := rfl
  files := rfl

theorem asked (session : Session) (request : Request) :
    session.Reaches [⟨request, Answer.inTurn session.answers 0⟩] (session.asked request) where
  requests := rfl
  answers := rfl
  told := rfl
  files := rfl

theorem trans {before middle after : Session} {first second : List Exchange}
    (reached : before.Reaches first middle) (further : middle.Reaches second after) :
    before.Reaches (first ++ second) after where
  requests := by
    rw [further.requests, reached.requests, List.map_append, List.append_assoc]
  answers := by
    rw [further.answers, reached.answers, List.drop_drop, List.length_append]
  told := by
    have later := further.told
    rw [reached.answers] at later
    rw [List.map_append, Exchange.pair_append, ← reached.told, List.length_map, ← later]
  files := further.files.trans reached.files

theorem answer_eq {before after : Session} {exchange : Exchange}
    (reached : before.Reaches [exchange] after) :
    exchange.answer = Answer.inTurn before.answers 0 :=
  (Exchange.told_cons reached.told).1

/-- Where nothing was asked before, the exchanges are the requests with the answers in order. -/
theorem eq_pair_of_fresh {before after : Session} {exchanges : List Exchange}
    (reached : before.Reaches exchanges after) (fresh : before.requests = []) :
    exchanges = Exchange.pair before.answers after.requests := by
  have requests : after.requests = exchanges.map Exchange.request := by
    rw [reached.requests, fresh, List.nil_append]
  rw [requests]
  exact reached.told

theorem eq_pair {answers : List Answer} {files : Files} {exchanges : List Exchange}
    {after : Session} (reached : (Session.start answers files).Reaches exchanges after) :
    exchanges = Exchange.pair answers after.requests :=
  reached.eq_pair_of_fresh rfl

end Session.Reaches

end Steward
