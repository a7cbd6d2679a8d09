import Steward.Proofs.Search.Guard

/-! Failures of counts. A count that is not verified is a result, with one exception: where an
answer that is no error has, on the way to the number, a value that is there and has no members, the
count fails. -/

namespace Steward

structure Json.Bars (value : Json) (kind : Json.Kind) : Prop where
  present : value.isFalsy = false
  kind_eq : value.kind = kind
  memberless : kind ≠ .object

/-- The answer is no error, and a value in it bars the way to the number. -/
inductive Answer.Misplaces (kind : Json.Kind) : Answer → Prop
  | reply {status : Int} {body : String} {members : List (Wording × Json)} {path : List String}
      (accepted : status < 400) (read : Json.read body = .ok (.object members))
      (sound : (Json.lookup members "errors").isFalsy = true)
      (onWay : path = ["data"] ∨ path = ["data", "search"])
      (bars : (Event.valueAt (.object members) path).Bars kind) :
      Misplaces kind (.reply status body)

/-! ## Members -/

namespace Json

variable {value : Json} {kind : Json.Kind}

theorem not_bars_object (members : List (Wording × Json)) : ¬(object members).Bars kind :=
  fun bars => bars.memberless bars.kind_eq.symm

theorem not_bars_of_falsy (falsy : value.isFalsy = true) : ¬value.Bars kind := by
  intro bars
  cases bars.present.symm.trans falsy

theorem bars_orEmpty : value.orEmpty.Bars kind ↔ value.Bars kind := by
  cases falsy : value.isFalsy with
  | false => rw [orEmpty, orElse_of_truthy falsy]
  | true =>
      rw [orEmpty, orElse_of_falsy falsy]
      exact iff_of_false (not_bars_object []) (not_bars_of_falsy falsy)

theorem Bars.valueAt_eq (bars : value.Bars kind) (name : String) :
    Event.valueAt value [name] = .null := by
  cases value with
  | object members => exact absurd bars (not_bars_object members)
  | _ => rfl

/-- The members of a value that may be absent can be asked for unless the value bars. -/
theorem field_orEmpty_eq_error_iff {name : String} {failure : Failure} :
    value.orEmpty.field name = .error failure ↔
      ∃ kind, value.Bars kind ∧ failure = .lacks kind "get" := by
  cases falsy : value.isFalsy with
  | true =>
      rw [orEmpty, orElse_of_falsy falsy]
      simp [field, not_bars_of_falsy falsy]
  | false =>
      rw [orEmpty, orElse_of_truthy falsy]
      by_cases object : value.kind = .object
      · cases value with
        | object members => simp [field, not_bars_object]
        | _ => cases object
      · have fails : value.field name = .error (.lacks value.kind "get") := by
          cases value with
          | object members => exact absurd rfl object
          | _ => rfl
        rw [fails]
        constructor
        · intro same
          cases same
          exact ⟨_, ⟨falsy, rfl, object⟩, rfl⟩
        · intro barred
          rcases barred with ⟨kind, bars, rfl⟩
          rw [bars.kind_eq]

theorem field_orEmpty_eq_ok {name : String} (passes : ∀ kind, ¬value.Bars kind) :
    value.orEmpty.field name = .ok (Event.valueAt value [name]) := by
  rw [← valueAt_orEmpty]
  cases found : value.orEmpty.field name with
  | error failure =>
      rcases field_orEmpty_eq_error_iff.mp found with ⟨kind, bars, -⟩
      exact absurd bars (passes kind)
  | ok member =>
      cases whole : value.orEmpty with
      | object members => rw [whole] at found; exact found.symm
      | _ => rw [whole] at found; cases found

end Json

/-! ## Readings -/

namespace Search

theorem countIn_eq_error_iff {data : Json} {failure : Failure} :
    countIn data = .error failure ↔
      ∃ kind, (data.Bars kind ∨ (Event.valueAt data ["search"]).Bars kind) ∧
        failure = .lacks kind "get" := by
  by_cases barred : ∃ kind, data.Bars kind
  · rcases barred with ⟨kind, bars⟩
    have fails : countIn data = .error (.lacks kind "get") := by
      rw [countIn, Json.field_orEmpty_eq_error_iff.mpr ⟨kind, bars, rfl⟩]
      rfl
    rw [fails, bars.valueAt_eq]
    constructor
    · intro same
      cases same
      exact ⟨kind, .inl bars, rfl⟩
    · intro barred
      rcases barred with ⟨other, barsToo | null, rfl⟩
      · rw [← bars.kind_eq, ← barsToo.kind_eq]
      · exact absurd null (Json.not_bars_of_falsy rfl)
  · have passes : ∀ kind, ¬data.Bars kind := not_exists.mp barred
    rw [countIn, Json.field_orEmpty_eq_ok passes, Except.ok_bind, Json.field_orEmpty_eq_error_iff]
    simp [passes]

/-- What bars the way to the number is found by a walk over the data of the answer. -/
theorem misplaces_iff {answer : Answer} {kind : Json.Kind} :
    answer.Misplaces kind ↔
      ∃ data, Service.dataIn answer = .ok data ∧
        (data.Bars kind ∨ (Event.valueAt data ["search"]).Bars kind) := by
  have absent : ¬((Json.object []).Bars kind ∨
      (Event.valueAt (.object []) ["search"]).Bars kind) :=
    not_or.mpr ⟨Json.not_bars_of_falsy rfl, Json.not_bars_of_falsy rfl⟩
  rw [dataIn_iff_reply
    (fun data => data.Bars kind ∨ (Event.valueAt data ["search"]).Bars kind) absent]
  simp only [Json.bars_orEmpty, Json.valueAt_orEmpty]
  constructor
  · intro misplaces
    rcases misplaces with ⟨accepted, read, sound, rfl | rfl, bars⟩
    · exact ⟨_, _, _, rfl, accepted, read, sound, .inl bars⟩
    · exact ⟨_, _, _, rfl, accepted, read, sound, .inr bars⟩
  · intro barred
    rcases barred with ⟨status, body, members, rfl, accepted, read, sound, bars | bars⟩
    · exact .reply accepted read sound (.inl rfl) bars
    · exact .reply accepted read sound (.inr rfl) bars

theorem reading_eq_error_iff {answer : Answer} {failure : Failure} :
    reading answer = .error failure ↔
      ∃ kind, answer.Misplaces kind ∧ failure = .lacks kind "get" := by
  simp only [misplaces_iff]
  unfold reading
  cases Service.dataIn answer with
  | error other => simp
  | ok data =>
      simp only [Except.map_eq_error_iff, countIn_eq_error_iff, Except.ok.injEq, exists_eq_left']

/-! ## Counts -/

def counted (inputs : Inputs) (answer : Answer) : Except Failure Count :=
  match ofInputs inputs with
  | .error refusal => .ok (.unverified refusal.reason)
  | .ok _ => reading answer

def Inputs.Fail (inputs : Inputs) (answer : Answer) (failure : Failure) : Prop :=
  inputs.AreSound ∧ ∃ kind, answer.Misplaces kind ∧ failure = .lacks kind "get"

def Inputs.Verify (inputs : Inputs) (answer : Answer) (found : Int) : Prop :=
  inputs.AreSound ∧ answer.Tells found

variable {inputs : Inputs} {answer : Answer} {failure : Failure} {found : Int}

theorem counted_eq_error_iff :
    counted inputs answer = .error failure ↔ inputs.Fail answer failure := by
  rw [Inputs.Fail, ← ofInputs_eq_ok_iff, counted]
  cases ofInputs inputs with
  | error refusal => simp
  | ok search => simp [reading_eq_error_iff]

theorem counted_eq_verified_iff :
    counted inputs answer = .ok (.verified found) ↔ inputs.Verify answer found := by
  rw [Inputs.Verify, ← ofInputs_eq_ok_iff, counted]
  cases ofInputs inputs with
  | error refusal => simp
  | ok search => simp [reading_eq_verified_iff]

/-- A count that neither fails nor is verified is a result all the same. -/
theorem counted_eq_unverified_iff :
    (∃ reason, counted inputs answer = .ok (.unverified reason)) ↔
      (¬∃ failure, inputs.Fail answer failure) ∧ ¬∃ found, inputs.Verify answer found := by
  simp only [← counted_eq_error_iff, ← counted_eq_verified_iff]
  cases counted inputs answer with
  | error failure => simp
  | ok count => cases count <;> simp

/-! ## Runs -/

namespace CountCourse

variable {base : String} {exchanges others : List Exchange}
  {result resultToo : Except Failure Count}

theorem eq_counted (course : CountCourse base inputs exchanges result) {answers : List Answer}
    (told : exchanges = Exchange.pair answers (exchanges.map Exchange.request)) :
    result = counted inputs (Answer.inTurn answers 0) := by
  cases course with
  | refused stopped => simp [counted, stopped]
  | asked made =>
      rw [List.map_cons, Exchange.pair_cons] at told
      have inTurn : _ = Answer.inTurn answers 0 := congrArg Exchange.answer (List.cons.inj told).1
      rw [counted, made, ← inTurn]

/-- A number comes by one answer. -/
theorem length_of_verified (course : CountCourse base inputs exchanges result)
    (verified : result = .ok (.verified found)) : exchanges.length = 1 := by
  cases course with
  | refused => cases verified
  | asked => rfl

theorem requests_eq (course : CountCourse base inputs exchanges result)
    (courseToo : CountCourse base inputs others resultToo) :
    exchanges.map Exchange.request = others.map Exchange.request := by
  cases course with
  | refused stopped =>
      cases courseToo with
      | refused => rfl
      | asked made => cases made.symm.trans stopped
  | asked made =>
      rcases courseToo.of_made made with ⟨answer, rfl, -⟩
      rfl

end CountCourse

theorem count_run (inputs : Inputs) (station : Station) (session : Session) :
    (count inputs station session).1 = counted inputs (Answer.inTurn session.answers 0) := by
  rcases takes_count inputs session with ⟨exchanges, reached, course⟩
  exact course.eq_counted reached.told

end Search

end Steward
