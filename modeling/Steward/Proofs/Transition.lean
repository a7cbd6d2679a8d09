import Steward.Proofs.Action

/-! Courses of label transitions. Every step makes its request, and the failures are those of the
answers. -/

namespace Steward.Transition

variable {station : Station} {context : Context}

def ofAnswers (addition removal : Wording) (removed added : Answer) : Transition :=
  ⟨failureOf "remove" (.text removal) (.ofAnswer removed) ++
    failureOf "add" (.text addition) (.ofAnswer added)⟩

theorem failureOf_eq_nil_iff {verb : String} {label : Json} {answer : Answer} :
    failureOf verb label (.ofAnswer answer) = [] ↔
      ∃ value, Service.decode answer = .ok value := by
  rw [← Outcome.ofAnswer_eq_done_iff]
  cases Outcome.ofAnswer answer <;> simp [failureOf]

/-- A transition has succeeded if both answers are those of a success. -/
theorem succeeded_ofAnswers_iff {addition removal : Wording} {removed added : Answer} :
    (ofAnswers addition removal removed added).succeeded = true ↔
      (∃ value, Service.decode removed = .ok value) ∧
        ∃ value, Service.decode added = .ok value := by
  simp [succeeded, ofAnswers, failureOf_eq_nil_iff]

theorem takes_removeAll {label : String} (spoken : Text.isAllBlank label = false) :
    (removeAll context [.text label]).Takes station
      (Course.asks (.labelRemoval station.service context.repository context.number label)
        fun answer => .ok (failureOf "remove" (.text label) (.ofAnswer answer))) := by
  apply Job.Takes.askOk (Action.takes_removeLabel spoken)
  intro answer
  exact .pure ⟨answer, by simp, by simp⟩

theorem takes_addAll {label : Wording} (spoken : Text.isAllBlank label.shown = false) :
    (addAll context [.text label]).Takes station
      (Course.asks (.labelAddition station.service context.repository context.number [label])
        fun answer => .ok (failureOf "add" (.text label) (.ofAnswer answer))) := by
  apply Job.Takes.askOk (Action.takes_addLabel spoken)
  intro answer
  exact .pure ⟨answer, by simp, by simp⟩

theorem takes_apply {addition : Wording} {removal : String}
    (added : Text.isAllBlank addition.shown = false) (removed : Text.isAllBlank removal = false) :
    (apply context [.text addition] [.text removal]).Takes station fun exchanges result =>
      ∃ removedAnswer addedAnswer,
        exchanges =
          [⟨.labelRemoval station.service context.repository context.number removal,
              removedAnswer⟩,
            ⟨.labelAddition station.service context.repository context.number [addition],
              addedAnswer⟩] ∧
        result = .ok (ofAnswers addition removal removedAnswer addedAnswer) := by
  apply Job.Takes.askOk (takes_removeAll removed)
  intro removedAnswer
  apply Job.Takes.askOk (takes_addAll added)
  intro addedAnswer
  exact .pure ⟨removedAnswer, addedAnswer, rfl, rfl⟩

/-- A report is one comment if something failed, and nothing otherwise. -/
theorem takes_report {transition : Transition} {comment : Wording → Wording}
    (spoken : Text.isAllBlank (comment transition.error).shown = false) :
    (report context transition comment).Takes station fun exchanges result =>
      result = .ok () ∧
        if transition.succeeded then exchanges = []
        else ∃ answer, exchanges =
          [⟨.comment station.service context.repository context.number (comment transition.error),
            answer⟩] := by
  unfold report
  by_cases succeeded : transition.succeeded
  · simp only [succeeded, Bool.not_true, Bool.false_eq_true, if_false, if_true]
    exact .pure ⟨rfl, rfl⟩
  · simp only [succeeded, Bool.not_false, if_true]
    apply Job.Takes.askOk (Action.takes_say spoken)
    intro answer
    apply (Job.Takes.record _ _).weaken
    intro exchanges result settled
    rcases settled with ⟨rfl, rfl⟩
    exact ⟨rfl, answer, rfl⟩

end Steward.Transition
