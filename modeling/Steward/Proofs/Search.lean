import Steward.Proofs.Json
import Steward.Proofs.Request

/-! Counts of searches. A count is verified exactly by an answer that tells a number in its
place. -/

namespace Steward

/-- The answer says how many issues a search has found: it is no error, neither by its status nor by
its content, and the number stands where it belongs. -/
inductive Answer.Tells (count : Int) : Answer → Prop
  | reply {status : Int} {body : String} {members : List (Wording × Json)}
      (accepted : status < 400) (read : Json.read body = .ok (.object members))
      (sound : (Json.lookup members "errors").isFalsy = true)
      (counted :
        Event.valueAt (.object members) ["data", "search", "issueCount"] = .integer count)
      (natural : 0 ≤ count) : Tells count (.reply status body)

theorem Answer.Tells.unique {answer : Answer} {first second : Int} (told : answer.Tells first)
    (toldAgain : answer.Tells second) : first = second := by
  cases told with
  | reply _ read _ counted =>
      cases toldAgain with
      | reply _ readAgain _ countedAgain =>
          cases read.symm.trans readAgain
          exact Json.integer.inj (counted.symm.trans countedAgain)

namespace Search

/-- The query of a search with one clause on labels. -/
theorem query_of_clause {search : Search} {clause : String}
    (only : search.labelClauses = [(clause : Wording)]) :
    search.query =
      (s!"repo:{search.owner}/{search.repository} is:issue is:{search.state} " ++
        s!"assignee:{search.username} {clause}" : String) := by
  rw [query, clauses, only]
  refine congrArg (Wording.mk · [])
    (?_ : s!"repo:{search.owner}/{search.repository}" ++ " " ++ ("is:issue" ++ " " ++
      (s!"is:{search.state}" ++ " " ++ (s!"assignee:{search.username}" ++ " " ++ clause))) = _)
  simp [← String.toList_inj, toString]

def Count.ofValue : Json → Count
  | .integer count =>
      if 0 ≤ count then .verified count else .unverified "unexpected search response"
  | _ => .unverified "unexpected search response"

/-- What a count comes to by the answer to its query. It fails where the answer has something else
than an object in the place of the search. -/
def reading (answer : Answer) : Except Failure Count :=
  match Service.dataIn answer with
  | .error failure => .ok (.unverified failure.message)
  | .ok data => (countIn data).map Count.ofValue

theorem takes_run {station : Station} (search : Search) :
    search.run.Takes station
      (Course.asks (.count station.service search.query) reading) := by
  apply Job.Takes.info
  apply Job.Takes.bindAttempt (Service.takes_query search.query)
  intro exchanges found asked
  rcases asked with ⟨answer, rfl, known⟩
  cases found with
  | error failure => exact .info (.pure ⟨answer, rfl, by simp [reading, ← known]⟩)
  | ok data =>
      apply Job.Takes.lift
      · intro value counted
        have read : reading answer = .ok (Count.ofValue value) := by
          simp [reading, ← known, counted, Except.map]
        cases value with
        | integer count =>
            by_cases natural : 0 ≤ count <;>
              simp only [Count.ofValue, natural, if_true, if_false] at read ⊢ <;>
              exact .info (.pure ⟨answer, rfl, read.symm⟩)
        | _ => exact .info (.pure ⟨answer, rfl, read.symm⟩)
      · intro failure failed
        exact ⟨answer, rfl, by simp [reading, ← known, failed, Except.map]⟩

/-! ## Verified counts -/

theorem Count.ofValue_eq_verified_iff {value : Json} {count : Int} :
    Count.ofValue value = .verified count ↔ value = .integer count ∧ 0 ≤ count := by
  cases value with
  | integer other =>
      by_cases natural : 0 ≤ other
      · simp only [Count.ofValue, natural, if_true, Count.verified.injEq, Json.integer.injEq]
        omega
      · simp only [Count.ofValue, natural, if_false, Json.integer.injEq, reduceCtorEq, false_iff]
        omega
  | _ => simp [Count.ofValue]

theorem countIn_eq_integer_iff {data : Json} {count : Int} :
    countIn data = .ok (.integer count) ↔
      Event.valueAt data ["search", "issueCount"] = .integer count := by
  have present : Json.integer count ≠ .null := nofun
  rw [← Json.walk_eq_iff present, countIn, Except.bind_eq_ok_iff]
  exact exists_congr fun found => and_congr_right fun _ => Json.field_orEmpty_eq_ok_iff present

/-- The data in an answer are those of an object that tells of no errors. -/
theorem dataIn_eq_ok_iff {answer : Answer} {data : Json} :
    Service.dataIn answer = .ok data ↔
      ∃ members, Service.decode answer = .ok (.object members) ∧
        (Json.lookup members "errors").isFalsy = true ∧
        (Json.lookup members "data").orEmpty = data := by
  rw [Service.dataIn, Except.bind_eq_ok_iff]
  constructor
  · intro carried
    rcases carried with ⟨value, decoded, found⟩
    cases value with
    | object members =>
        cases sound : (Json.lookup members "errors").isFalsy with
        | false => simp [Service.queryData, sound, Except.bind_eq_ok_iff] at found
        | true => exact ⟨members, decoded, sound, by simpa [Service.queryData, sound] using found⟩
    | _ => cases found
  · intro shape
    rcases shape with ⟨members, decoded, sound, rfl⟩
    exact ⟨_, decoded, by simp [Service.queryData, sound]⟩

/-- The place of the number in an answer, seen from the answer and from its data. -/
theorem valueAt_data {members : List (Wording × Json)} :
    Event.valueAt (.object members) ["data", "search", "issueCount"] =
      Event.valueAt (Json.lookup members "data").orEmpty ["search", "issueCount"] := by
  rw [Json.valueAt_orEmpty]
  rfl

/-- A count is verified by the data of its answer. -/
theorem reading_eq_verified_iff_data {answer : Answer} {count : Int} :
    reading answer = .ok (.verified count) ↔
      ∃ data, Service.dataIn answer = .ok data ∧
        Event.valueAt data ["search", "issueCount"] = .integer count ∧ 0 ≤ count := by
  unfold reading
  cases Service.dataIn answer with
  | error failure => simp
  | ok data =>
      simp only [Except.map_eq_ok_iff, Count.ofValue_eq_verified_iff, Except.ok.injEq,
        exists_eq_left', ← countIn_eq_integer_iff]
      constructor
      · intro counted
        rcases counted with ⟨_, counted, rfl, natural⟩
        exact ⟨counted, natural⟩
      · intro counted
        exact ⟨_, counted.1, rfl, counted.2⟩

/-- What holds of the data in an answer, and not of an answer without data, holds of what can be
read in a reply. -/
theorem dataIn_iff_reply {answer : Answer} (holds : Json → Prop) (absent : ¬holds (.object [])) :
    (∃ data, Service.dataIn answer = .ok data ∧ holds data) ↔
      ∃ status body members, answer = .reply status body ∧ status < 400 ∧
        Json.read body = .ok (.object members) ∧
        (Json.lookup members "errors").isFalsy = true ∧
        holds (Json.lookup members "data").orEmpty := by
  constructor
  · intro held
    rcases held with ⟨data, carried, held⟩
    rcases dataIn_eq_ok_iff.mp carried with ⟨members, decoded, sound, rfl⟩
    cases answer with
    | refusal reason => cases decoded
    | reply status body =>
        rcases Service.decode_reply_eq_ok_iff.mp decoded with ⟨accepted, read⟩
        split at read
        · cases read
          exact absurd held absent
        · exact ⟨status, body, members, rfl, accepted, read, sound, held⟩
  · intro told
    rcases told with ⟨status, body, members, rfl, accepted, read, sound, held⟩
    have spoken : body ≠ "" := by
      intro empty
      rw [empty] at read
      cases read
    refine ⟨_, dataIn_eq_ok_iff.mpr ⟨members, ?_, sound, rfl⟩, held⟩
    rw [Service.decode_reply_eq_ok_iff, if_neg spoken]
    exact ⟨accepted, read⟩

theorem reading_eq_verified_iff {answer : Answer} {count : Int} :
    reading answer = .ok (.verified count) ↔ answer.Tells count := by
  have absent : ¬(Event.valueAt (.object []) ["search", "issueCount"] = .integer count ∧
      0 ≤ count) := by
    intro counted
    cases counted.1
  rw [reading_eq_verified_iff_data, dataIn_iff_reply (fun data =>
    Event.valueAt data ["search", "issueCount"] = .integer count ∧ 0 ≤ count) absent]
  constructor
  · intro told
    rcases told with ⟨status, body, members, rfl, accepted, read, sound, counted, natural⟩
    exact .reply accepted read sound (valueAt_data.trans counted) natural
  · intro tells
    rcases tells with ⟨accepted, read, sound, counted, natural⟩
    exact ⟨_, _, _, rfl, accepted, read, sound, valueAt_data.symm.trans counted, natural⟩

end Search

end Steward
