import Steward.Proofs.Search
import Steward.Proofs.Word

/-! The guard of searches, and counts from any values. A count asks once if its values pass the
guard and never otherwise; it is verified exactly by values that pass and an answer that tells. -/

namespace Steward

namespace Search

/-! ## Guard -/

inductive IsLabel : Json → Prop
  | absent {value : Json} (falsy : value.isFalsy = true) : IsLabel value
  | named {label : Wording} (spoken : Text.isAllBlank label.shown = false)
      (unquoted : '"' ∉ label.shown.toList) : IsLabel (.text label)

structure Inputs.AreSound (inputs : Inputs) : Prop where
  owner : ∃ word : String, inputs.owner = .text word ∧ IsWord word
  repository : ∃ word : String, inputs.repository = .text word ∧ IsWord word
  username : ∃ word : String, inputs.username = .text word ∧ IsWord word
  state : inputs.state = .text "open" ∨ inputs.state = .text "closed"
  label : IsLabel inputs.label

theorem IsLabel.iff_of_truthy {value : Json} (truthy : value.isFalsy = false) :
    IsLabel value ↔
      ∃ label, value = .text label ∧ Text.isAllBlank label.shown = false ∧
        '"' ∉ label.shown.toList := by
  constructor
  · intro sound
    cases sound with
    | absent falsy => cases truthy.symm.trans falsy
    | named spoken unquoted => exact ⟨_, rfl, spoken, unquoted⟩
  · intro named
    rcases named with ⟨label, rfl, spoken, unquoted⟩
    exact .named spoken unquoted

theorem label?_isSome_iff {value : Json} : (label? value).isSome = true ↔ IsLabel value := by
  cases falsy : value.isFalsy with
  | true => simp [label?, falsy, IsLabel.absent falsy]
  | false =>
      rw [IsLabel.iff_of_truthy falsy]
      cases value with
      | text label => cases blank : Text.isAllBlank label.shown <;> simp [label?, falsy, blank]
      | _ => simp [label?, falsy]

/-- The guard lets through what a search can be made of, and nothing else. -/
theorem ofInputs_eq_ok_iff {inputs : Inputs} :
    (∃ search, ofInputs inputs = .ok search) ↔ inputs.AreSound := by
  constructor
  · intro made
    rcases made with ⟨search, made⟩
    unfold ofInputs at made
    split at made
    · rename_i words
      simp only [Bool.and_eq_true, Json.isSearchWord_iff] at words
      split at made
      · rename_i state known
        split at made
        · rename_i one
          simp only [openState, closedState, Bool.or_eq_true] at one
          cases labelled : label? inputs.label with
          | none => rw [labelled] at made; cases made
          | some label =>
              refine ⟨words.1.1, words.1.2, words.2, ?_,
                label?_isSome_iff.mp (by rw [labelled]; rfl)⟩
              rcases one with opened | closed
              · exact .inl (by rw [known, of_decide_eq_true opened])
              · exact .inr (by rw [known, of_decide_eq_true closed])
        · cases made
      · cases made
    · cases made
  · intro sound
    have words : (inputs.owner.isSearchWord && inputs.repository.isSearchWord &&
        inputs.username.isSearchWord) = true := by
      simp only [Bool.and_eq_true, Json.isSearchWord_iff]
      exact ⟨⟨sound.owner, sound.repository⟩, sound.username⟩
    rcases Option.isSome_iff_exists.mp (label?_isSome_iff.mpr sound.label) with ⟨label, labelled⟩
    rcases sound.state with state | state <;>
      simp [ofInputs, words, state, labelled, openState, closedState]

/-! ## Counts -/

inductive CountCourse (base : String) (inputs : Inputs) : Course Count
  | refused {refusal : Refusal} (stopped : ofInputs inputs = .error refusal) :
      CountCourse base inputs [] (.ok (.unverified refusal.reason))
  | asked {search : Search} {answer : Answer} (made : ofInputs inputs = .ok search) :
      CountCourse base inputs [⟨.count base search.query, answer⟩] (reading answer)

theorem takes_count {station : Station} (inputs : Inputs) :
    (count inputs).Takes station (CountCourse station.service inputs) := by
  unfold count
  cases made : ofInputs inputs with
  | error refusal => exact .info (.pure (.refused made))
  | ok search =>
      refine (takes_run search).weaken ?_
      intro exchanges result asked
      rcases asked with ⟨answer, rfl, rfl⟩
      exact .asked made

namespace CountCourse

variable {base : String} {inputs : Inputs} {exchanges : List Exchange}
  {result : Except Failure Count}

theorem length_le (course : CountCourse base inputs exchanges result) : exchanges.length ≤ 1 := by
  cases course <;> simp

theorem asks_iff (course : CountCourse base inputs exchanges result) :
    exchanges ≠ [] ↔ inputs.AreSound := by
  rw [← ofInputs_eq_ok_iff]
  cases course with
  | refused stopped => simp [stopped]
  | asked made => simp [made]

theorem request_eq (course : CountCourse base inputs exchanges result) {exchange : Exchange}
    (asked : exchange ∈ exchanges) :
    ∃ search, ofInputs inputs = .ok search ∧ exchange.request = .count base search.query := by
  cases course with
  | refused => cases asked
  | asked made =>
      rw [List.mem_singleton.mp asked]
      exact ⟨_, made, rfl⟩

theorem of_made (course : CountCourse base inputs exchanges result) {search : Search}
    (made : ofInputs inputs = .ok search) :
    ∃ answer, exchanges = [⟨.count base search.query, answer⟩] ∧ reading answer = result := by
  cases course with
  | refused stopped => cases made.symm.trans stopped
  | asked madeToo =>
      cases made.symm.trans madeToo
      exact ⟨_, rfl, rfl⟩

/-- Without a search there is no verified count; with one it is that of the answer. -/
theorem verified_iff (course : CountCourse base inputs exchanges result) {before after : Session}
    (reached : before.Reaches exchanges after) {count : Int} :
    result = .ok (.verified count) ↔
      inputs.AreSound ∧ (Answer.inTurn before.answers 0).Tells count := by
  rw [← ofInputs_eq_ok_iff]
  cases course with
  | refused stopped => simp [stopped]
  | asked made => simp [made, reading_eq_verified_iff, ← reached.answer_eq]

end CountCourse

/-- From any values and by any answers: a count asks at most once, and it does ask exactly if its
values pass the guard. It is verified if and only if they pass and the answer tells it. -/
theorem count_verified_iff_told (inputs : Inputs) (station : Station) (answers : List Answer)
    (files : Files) :
    let ran := count inputs station (.start answers files)
    ran.2.requests.length ≤ 1 ∧
      (ran.2.requests ≠ [] ↔ inputs.AreSound) ∧
      (∀ request ∈ ran.2.requests, ∃ search, ofInputs inputs = .ok search ∧
        request = .count station.service search.query) ∧
      ∀ count, ran.1 = .ok (.verified count) ↔
        inputs.AreSound ∧ (Answer.inTurn answers 0).Tells count := by
  intro ran
  rcases takes_count inputs (.start answers files) with ⟨exchanges, reached, course⟩
  have requests : ran.2.requests = exchanges.map Exchange.request := reached.requests
  rw [requests, List.length_map]
  refine ⟨course.length_le, ?_, ?_, fun count => course.verified_iff reached⟩
  · rw [← course.asks_iff, ne_eq, List.map_eq_nil_iff]
  · intro request among
    rcases List.mem_map.mp among with ⟨exchange, asked, rfl⟩
    exact course.request_eq asked

end Search

end Steward
