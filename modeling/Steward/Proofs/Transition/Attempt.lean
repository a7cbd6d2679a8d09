import Mathlib.Data.List.Basic
import Steward.Proofs.Transition
import Steward.Proofs.Wording

/-! Transitions of any labels. Each label is tried once, in its turn and whatever became of those
before it. A label that has no name is refused without a request, and so is one that is to be
removed and has surrogates in its name; the others come to one request each. -/

namespace Steward

/-! ## Names of labels -/

namespace Json

def spoken? : Json → Option Wording
  | .text name => if Text.isAllBlank name.shown then none else some name
  | _ => none

def plain? (value : Json) : Option String :=
  value.spoken?.bind fun name => name.encodable.toOption

theorem spoken?_eq_some_iff {value : Json} {name : Wording} :
    value.spoken? = some name ↔ value = .text name ∧ Text.isAllBlank name.shown = false := by
  cases value with
  | text other =>
      cases blank : Text.isAllBlank other.shown with
      | true =>
          simp only [spoken?, blank, if_true, text.injEq, reduceCtorEq, false_iff]
          intro both
          rcases both with ⟨rfl, spoken⟩
          cases blank.symm.trans spoken
      | false =>
          simp only [spoken?, blank, Bool.false_eq_true, if_false, Option.some.injEq, text.injEq]
          exact ⟨fun same => ⟨same, same ▸ blank⟩, And.left⟩
  | _ => simp [spoken?]

theorem plain?_text {name : String} (spoken : Text.isAllBlank name = false) :
    (text name).plain? = some name := by
  have named : (text name).spoken? = some (name : Wording) := spoken?_eq_some_iff.mpr ⟨rfl, spoken⟩
  rw [plain?, named]
  rfl

theorem plain?_of_broken {name : Wording} {fault : Wording.Fault} (broken : name.IsBrokenBy fault) :
    (text name).plain? = none := by
  cases spoken : (text name).spoken? with
  | none => rw [plain?, spoken, Option.bind_none]
  | some other =>
      cases (spoken?_eq_some_iff.mp spoken).1
      rw [plain?, spoken, Option.bind_some, broken.encodable_eq]
      rfl

theorem requireNonBlank_of_unspoken {value : Json} (unspoken : value.spoken? = none)
    (label : String) : value.requireNonBlank label = .error (.missing label) := by
  cases value with
  | text name =>
      cases blank : Text.isAllBlank name.shown with
      | true => simp [requireNonBlank, blank]
      | false => simp [spoken?, blank] at unspoken
  | _ => rfl

end Json

namespace Transition

/-! ## Changes -/

inductive Change where
  | removal
  | addition
deriving DecidableEq, Repr

namespace Change

def verb : Change → String
  | .removal => "remove"
  | .addition => "add"

def field : Change → String
  | .removal => "label"
  | .addition => "labels[0]"

def request? (base : String) (context : Context) (label : Json) : Change → Option Request
  | .removal =>
      label.plain?.map (.labelRemoval base context.repository context.number)
  | .addition =>
      label.spoken?.map fun name => .labelAddition base context.repository context.number [name]

/-- A label is removed by its name, and added by its name even where this has surrogates. -/
inductive Asks (base : String) (context : Context) : Change → Json → Request → Prop
  | removal {name : String} (spoken : Text.isAllBlank name = false) :
      Asks base context .removal (.text name)
        (.labelRemoval base context.repository context.number name)
  | addition {name : Wording} (spoken : Text.isAllBlank name.shown = false) :
      Asks base context .addition (.text name)
        (.labelAddition base context.repository context.number [name])

theorem Asks.request?_eq {base : String} {context : Context} {change : Change} {label : Json}
    {request : Request} (asks : change.Asks base context label request) :
    change.request? base context label = some request := by
  cases asks with
  | removal spoken => rw [request?, Json.plain?_text spoken, Option.map_some]
  | addition spoken => rw [request?, Json.spoken?_eq_some_iff.mpr ⟨rfl, spoken⟩, Option.map_some]

def one (context : Context) (label : Json) : Change → Job Outcome
  | .removal => Action.removeLabel context label
  | .addition => Action.addLabels context (.list [label])

def all (context : Context) (labels : List Json) : Change → Job (List Wording)
  | .removal => removeAll context labels
  | .addition => addAll context labels

theorem all_nil (context : Context) (change : Change) : change.all context [] = return [] := by
  cases change <;> rfl

theorem all_cons (context : Context) (label : Json) (rest : List Json) (change : Change) :
    change.all context (label :: rest) = do
      let outcome ← change.one context label
      return failureOf change.verb label outcome ++ (← change.all context rest) := by
  cases change <;> rfl

end Change

/-! ## Attempts -/

structure Attempt where
  change : Change
  label : Json
  exchange? : Option Exchange
  error? : Option Wording

namespace Attempt

inductive Ends (base : String) (context : Context) : Attempt → Prop
  | refused {change : Change} {label : Json} (unspoken : label.spoken? = none) :
      Ends base context ⟨change, label, none, some (EventFault.missing change.field).message⟩
  | surrogates {name : Wording} {fault : Wording.Fault}
      (spoken : Text.isAllBlank name.shown = false) (broken : name.IsBrokenBy fault) :
      Ends base context ⟨.removal, .text name, none, some (surrogateMessage fault)⟩
  | accepted {change : Change} {label : Json} {request : Request} {answer : Answer}
      (asks : change.Asks base context label request) (accepts : Service.Accepts answer) :
      Ends base context ⟨change, label, some ⟨request, answer⟩, none⟩
  | failed {change : Change} {label : Json} {request : Request} {answer : Answer}
      {failure : Failure} (asks : change.Asks base context label request)
      (denies : Service.Denies answer failure) :
      Ends base context ⟨change, label, some ⟨request, answer⟩, some failure.message⟩

def failure? (attempt : Attempt) : Option Wording :=
  attempt.error?.map fun error =>
    s!"Failed to {attempt.change.verb} \"" ++ attempt.label.display ++ "\" label: " ++ error

def request? (base : String) (context : Context) (attempt : Attempt) : Option Request :=
  attempt.change.request? base context attempt.label

def outcome (attempt : Attempt) : Outcome :=
  match attempt.error? with
  | none => .done
  | some error => .failed error

theorem failureOf_outcome (attempt : Attempt) :
    failureOf attempt.change.verb attempt.label attempt.outcome = attempt.failure?.toList := by
  rcases attempt with ⟨change, label, exchange?, error?⟩
  cases error? <;> rfl

variable {base : String} {context : Context} {attempt : Attempt}

theorem Ends.request (ends : attempt.Ends base context) :
    attempt.exchange?.map Exchange.request = attempt.request? base context := by
  cases ends with
  | @refused change label unspoken =>
      cases change <;> simp [request?, Change.request?, Json.plain?, unspoken]
  | surrogates spoken broken =>
      simp [request?, Change.request?, Json.plain?_of_broken broken]
  | accepted asks | failed asks => exact asks.request?_eq.symm

/-- Nothing is reported exactly of the requests that were accepted. -/
theorem Ends.failure?_eq_none_iff (ends : attempt.Ends base context) :
    attempt.failure? = none ↔
      ∃ exchange, attempt.exchange? = some exchange ∧ Service.Accepts exchange.answer := by
  cases ends with
  | refused | surrogates => simp [failure?]
  | accepted asks accepts => simpa [failure?] using accepts
  | failed asks denies =>
      simpa [failure?] using denies.not_accepts

end Attempt

/-! ## Courses -/

section

variable {station : Station} {context : Context}

/-- What is refused makes no request. -/
theorem takes_one_refused {label : Json} (change : Change) (unspoken : label.spoken? = none) :
    (change.one context label).Takes station
      (Course.settled (.ok (.failed (EventFault.missing change.field).message))) := by
  cases change with
  | removal =>
      refine Action.takes_guarded_refused (.event (.missing "label")) ?_ fun _ =>
        Job.Takes.record _ _
      rw [Json.requireNonBlank_of_unspoken unspoken]
      exact .ofExcept ⟨rfl, rfl⟩
  | addition =>
      refine Action.takes_guarded_refused (.event (.missing "labels[0]")) ?_
        fun _ => Job.Takes.record _ _
      rw [Action.checkItems, Json.requireNonBlank_of_unspoken unspoken]
      exact .ofExcept ⟨rfl, rfl⟩

theorem takes_one_asks {change : Change} {label : Json} {request : Request}
    (asks : change.Asks station.service context label request) :
    (change.one context label).Takes station
      (Course.asks request fun answer => .ok (Outcome.ofAnswer answer)) := by
  cases asks with
  | removal spoken => exact Action.takes_removeLabel spoken
  | addition spoken => exact Action.takes_addLabel spoken

def Tries (base : String) (context : Context) (change : Change) (label : Json) : Course Outcome :=
  Course.succeeds fun exchanges outcome =>
    ∃ attempt : Attempt, (attempt.change, attempt.label) = (change, label) ∧
      attempt.Ends base context ∧ exchanges = attempt.exchange?.toList ∧ outcome = attempt.outcome

theorem takes_one_of_asks {change : Change} {label : Json} {request : Request}
    (asks : change.Asks station.service context label request) :
    (change.one context label).Takes station (Tries station.service context change label) := by
  apply (takes_one_asks asks).weaken
  intro exchanges result course
  rcases course with ⟨answer, rfl, rfl⟩
  cases decoded : Service.decode answer with
  | ok value =>
      have accepts := Service.accepts_iff.mpr ⟨value, decoded⟩
      have outcome : Outcome.ofAnswer answer = .done := congrArg Outcome.ofResult decoded
      exact ⟨_, rfl, ⟨change, label, some ⟨_, answer⟩, none⟩, rfl, .accepted asks accepts, rfl,
        outcome⟩
  | error failure =>
      have denies := Service.decode_eq_error_iff.mp decoded
      have outcome : Outcome.ofAnswer answer = .failed failure.message :=
        congrArg Outcome.ofResult decoded
      exact ⟨_, rfl, ⟨change, label, some ⟨_, answer⟩, some failure.message⟩, rfl,
        .failed asks denies, rfl, outcome⟩

/-- A change of one label is an attempt that ends. -/
theorem takes_one (change : Change) (label : Json) :
    (change.one context label).Takes station (Tries station.service context change label) := by
  cases named : label.spoken? with
  | none =>
      apply (takes_one_refused change named).weaken
      intro exchanges result course
      rcases course with ⟨rfl, rfl⟩
      exact ⟨_, rfl, ⟨change, label, none, some _⟩, rfl, .refused named, rfl, rfl⟩
  | some name =>
      rcases Json.spoken?_eq_some_iff.mp named with ⟨rfl, spoken⟩
      cases change with
      | addition => exact takes_one_of_asks (.addition spoken)
      | removal =>
          rcases name.coe_or_isBrokenBy with ⟨text, rfl⟩ | ⟨fault, broken⟩
          · exact takes_one_of_asks (.removal spoken)
          · apply (Action.takes_removeLabel_of_broken spoken broken).weaken
            intro exchanges result course
            rcases course with ⟨rfl, rfl⟩
            exact ⟨_, rfl, ⟨.removal, .text name, none, some _⟩, rfl, .surrogates spoken broken,
              rfl, rfl⟩

/-- Labels are tried in order: the exchanges and the failures are those of the attempts. -/
def Tried (base : String) (context : Context) (changes : List (Change × Json))
    (exchanges : List Exchange) (failures : List Wording) : Prop :=
  ∃ attempts : List Attempt,
    attempts.map (fun attempt => (attempt.change, attempt.label)) = changes ∧
      (∀ attempt ∈ attempts, attempt.Ends base context) ∧
      exchanges = attempts.filterMap Attempt.exchange? ∧
      failures = attempts.filterMap Attempt.failure?

theorem Tried.one {base : String} {attempt : Attempt} (ends : attempt.Ends base context) :
    Tried base context [(attempt.change, attempt.label)] attempt.exchange?.toList
      (failureOf attempt.change.verb attempt.label attempt.outcome) :=
  ⟨[attempt], rfl, List.forall_mem_singleton.mpr ends,
    by simp [List.filterMap_eq_flatMap_toList],
    by simp [List.filterMap_eq_flatMap_toList, attempt.failureOf_outcome]⟩

theorem Tried.append {base : String} {first second : List (Change × Json)}
    {exchanges others : List Exchange} {failures more : List Wording}
    (tried : Tried base context first exchanges failures)
    (triedToo : Tried base context second others more) :
    Tried base context (first ++ second) (exchanges ++ others) (failures ++ more) := by
  rcases tried with ⟨attempts, rfl, ends, rfl, rfl⟩
  rcases triedToo with ⟨later, rfl, endsToo, rfl, rfl⟩
  exact ⟨attempts ++ later, by simp, List.forall_mem_append.mpr ⟨ends, endsToo⟩, by simp, by simp⟩

theorem takes_all (change : Change) (labels : List Json) :
    (change.all context labels).Takes station
      (Course.succeeds (Tried station.service context (labels.map (change, ·)))) := by
  induction labels with
  | nil =>
      rw [Change.all_nil]
      exact .pure ⟨[], rfl, [], rfl, nofun, rfl, rfl⟩
  | cons label rest induction =>
      rw [Change.all_cons]
      apply Job.Takes.bindOk (takes_one change label)
      intro exchanges outcome course
      rcases course with ⟨attempt, same, ends, rfl, rfl⟩
      cases same
      apply Job.Takes.bindOk induction
      intro others failures tried
      refine .pure ⟨_, rfl, ?_⟩
      rw [List.append_nil]
      exact (Tried.one ends).append tried

def changes (additions removals : List Json) : List (Change × Json) :=
  removals.map (Change.removal, ·) ++ additions.map (Change.addition, ·)

theorem takes_apply_tried (additions removals : List Json) :
    (apply context additions removals).Takes station (Course.succeeds fun exchanges transition =>
      Tried station.service context (changes additions removals) exchanges
        transition.failures) := by
  apply Job.Takes.bindOk (takes_all .removal removals)
  intro exchanges removed tried
  apply Job.Takes.bindOk (takes_all .addition additions)
  intro others added triedToo
  refine .pure ⟨_, rfl, ?_⟩
  rw [List.append_nil]
  exact tried.append triedToo

end

/-- The requests of a transition: one for each name to remove that can stand in an address, then one
for each name to add. -/
def requests (base : String) (context : Context) (additions removals : List Json) : List Request :=
  (removals.filterMap Json.plain?).map
      (Request.labelRemoval base context.repository context.number) ++
    (additions.filterMap Json.spoken?).map fun name =>
      Request.labelAddition base context.repository context.number [name]

theorem map_request_attempts {base : String} {context : Context} {attempts : List Attempt}
    {additions removals : List Json}
    (tried : attempts.map (fun attempt => (attempt.change, attempt.label)) =
      changes additions removals)
    (ends : ∀ attempt ∈ attempts, attempt.Ends base context) :
    (attempts.filterMap Attempt.exchange?).map Exchange.request =
      requests base context additions removals := by
  have own : (attempts.filterMap Attempt.exchange?).map Exchange.request =
      attempts.filterMap (Attempt.request? base context) := by
    rw [List.map_filterMap]
    exact List.filterMap_congr fun attempt member => (ends attempt member).request
  have named : attempts.filterMap (Attempt.request? base context) =
      (changes additions removals).filterMap fun change =>
        change.1.request? base context change.2 := by
    rw [← tried, List.filterMap_map]
    rfl
  rw [own, named, changes, List.filterMap_append, List.filterMap_map, List.filterMap_map, requests,
    List.map_filterMap, List.map_filterMap]
  rfl

/-! ## Reports -/

section

variable {context : Context} {station : Station} {comment : Wording → Wording}
  (spoken : ∀ error, Text.isAllBlank (comment error).shown = false)

include spoken

theorem report_run (transition : Transition) (session : Session) :
    let run := report context transition comment station session
    run.1 = .ok () ∧ run.2.requests = session.requests ++
      if transition.failures = [] then []
      else [.comment station.service context.repository context.number
        (comment transition.error)] := by
  intro run
  rcases takes_report (spoken _) session with ⟨exchanges, reached, result, told⟩
  refine ⟨result, ?_⟩
  rw [reached.requests]
  by_cases none_ : transition.failures = []
  · rw [if_pos (by simpa [succeeded] using none_)] at told
    rw [told, if_pos none_]
    rfl
  · rw [if_neg (by simpa [succeeded] using none_)] at told
    rcases told with ⟨answer, rfl⟩
    rw [if_neg none_]
    rfl

/-- A transition with its report comes to what it comes to without. -/
theorem applyAndReport_run {additions removals : List Json} {session after : Session}
    {transition : Transition}
    (ran : apply context additions removals station session = (.ok transition, after)) :
    applyAndReport context comment additions removals station session =
      (.ok transition, (report context transition comment station after).2) := by
  have told : report context transition comment station after = (.ok (), _) :=
    Prod.ext (report_run spoken transition after).1 rfl
  exact (Job.bind_run_ok ran).trans (Job.bind_run_ok told)

end

/-! ## Runs -/

/-- A transition tries each removal and then each addition, whatever became of the ones before. Its
requests are those of the labels that have names, but not of a removal with surrogates in its name;
its failures are one for each label without a request or without success, in order. The report is
one comment on all failures after everything else, and is left out where there is none. -/
theorem apply_tries_all (context : Context) (additions removals : List Json) (station : Station)
    (session : Session) :
    let run := apply context additions removals station session
    ∃ attempts : List Attempt,
      attempts.map (fun attempt => (attempt.change, attempt.label)) = changes additions removals ∧
      (∀ attempt ∈ attempts, attempt.Ends station.service context) ∧
      session.Reaches (attempts.filterMap Attempt.exchange?) run.2 ∧
      run.2.requests = session.requests ++ requests station.service context additions removals ∧
      ∃ transition : Transition, run.1 = .ok transition ∧
        transition.failures = attempts.filterMap Attempt.failure? ∧
        (transition.succeeded = true ↔ ∀ attempt ∈ attempts, ∃ exchange,
          attempt.exchange? = some exchange ∧ Service.Accepts exchange.answer) ∧
        ∀ comment : Wording → Wording,
          (∀ error, Text.isAllBlank (comment error).shown = false) →
          let reported := applyAndReport context comment additions removals station session
          reported.1 = .ok transition ∧
            reported.2.requests = run.2.requests ++
              if transition.failures = [] then []
              else [.comment station.service context.repository context.number
                (comment (.joined "; " transition.failures))] := by
  intro run
  rcases takes_apply_tried additions removals session with
    ⟨exchanges, reached, ⟨_⟩, result, attempts, tried, ends, rfl, rfl⟩
  refine ⟨attempts, tried, ends, reached, ?_, ⟨_⟩, result, rfl, ?_, ?_⟩
  · rw [← map_request_attempts tried ends]
    exact reached.requests
  · simp only [succeeded, List.isEmpty_iff, List.filterMap_eq_nil_iff]
    exact forall₂_congr fun attempt member => (ends attempt member).failure?_eq_none_iff
  · intro comment spoken reported
    have whole : reported = _ := applyAndReport_run spoken (Prod.ext result rfl)
    rw [whole]
    exact ⟨rfl, (report_run spoken _ run.2).2⟩

/-- A label whose name is a lone surrogate has a name, and still its removal is not asked for. -/
theorem apply_skips_surrogate :
    let label : Json := .text ⟨"", [(0, "")]⟩
    let station : Station := ⟨"on-comment", "https://api.github.com", "token", [], "12:00:00"⟩
    let context : Context := ⟨⟨"hiero", "sdk"⟩, "issues", 7, none, none, none, .standard⟩
    let run := apply context [] [label] station (.start [] [])
    Json.read "\"\\ud800\"" = .ok label ∧
      label.spoken? = some ⟨"", [(0, "")]⟩ ∧
      run.1.toOption = some
        ⟨["Failed to remove \"" ++ ⟨"", [(0, "")]⟩ ++ "\" label: 'utf-8' codec can't encode " ++
          "character '\\ud800' in position 0: surrogates not allowed"]⟩ ∧
      run.2.requests = [] := by
  intro label station context run
  refine ⟨rfl, by decide +kernel, by decide +kernel, ?_⟩
  exact List.isEmpty_iff.mp (by decide +kernel)

/-- Neither a refusal nor a failure keeps what comes after it from being tried. -/
example :
    let station : Station := ⟨"on-comment", "https://api.github.com", "token", [], "12:00:00"⟩
    let context : Context := ⟨⟨"hiero", "sdk"⟩, "issues", 7, none, none, none, .standard⟩
    let run := apply context [.null, .text "new"] [.text " ", .text "old"] station
      (.start [.refusal "Connection refused"] [])
    run.1.toOption = some
        ⟨["Failed to remove \" \" label: Bot context invalid: missing or invalid label",
          "Failed to remove \"old\" label: Connection refused",
          "Failed to add \"None\" label: Bot context invalid: missing or invalid labels[0]"]⟩ ∧
      run.2.requests.map Request.method = ["DELETE", "POST"] := by
  decide +kernel

end Transition

end Steward
