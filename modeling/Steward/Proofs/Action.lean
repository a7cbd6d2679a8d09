import Steward.Proofs.Request
import Steward.Proofs.Wording
import Steward.Transition

/-! Courses of changes. A change whose values pass their checks makes one request, and its outcome
tells what the answer to it was. -/

namespace Steward

/-! ## Checks -/

namespace Json

theorem requireNonBlank_text (content : Wording) {label : String}
    (spoken : Text.isAllBlank content.shown = false) :
    (text content).requireNonBlank label = .ok content := by
  simp [requireNonBlank, spoken]

theorem requireLogin_text {login label : String} (spoken : Text.isAllBlank login = false)
    (word : (text login).isSearchWord = true) :
    (text login).requireLogin label = .ok login := by
  simp [requireLogin, requireSearchWord, requireNonBlank, spoken, word]

end Json

/-! ## Outcomes -/

namespace Outcome

def ofResult {α : Type} : Except Failure α → Outcome
  | .ok _ => .done
  | .error failure => .failed failure.message

def ofAnswer (answer : Answer) : Outcome := ofResult (Service.decode answer)

theorem ofAnswer_eq_done_iff {answer : Answer} :
    ofAnswer answer = .done ↔ ∃ value, Service.decode answer = .ok value := by
  unfold ofAnswer
  cases Service.decode answer <;> simp [ofResult]

end Outcome

namespace Action

variable {station : Station} {context : Context}

theorem takes_guarded {change : Job Json} {complain : Wording → Job Unit} {success : Wording}
    {course : Course Json} (takes : change.Takes station course)
    (complains : ∀ reason, (complain reason).Takes station (Course.settled (.ok ()))) :
    (guarded change complain success).Takes station fun exchanges result =>
      ∃ found, course exchanges found ∧ result = .ok (Outcome.ofResult found) := by
  apply Job.Takes.bindAttempt takes
  intro exchanges found kept
  cases found with
  | ok value => exact .info (.pure (by simpa using ⟨_, kept, rfl⟩))
  | error failure => exact .remark (complains _) (.pure (by simpa using ⟨_, kept, rfl⟩))

theorem takes_guarded_asks {change : Job Json} {complain : Wording → Job Unit} {success : Wording}
    {request : Request} (takes : change.Takes station (Course.asks request Service.decode))
    (complains : ∀ reason, (complain reason).Takes station (Course.settled (.ok ()))) :
    (guarded change complain success).Takes station
      (Course.asks request fun answer => .ok (Outcome.ofAnswer answer)) := by
  apply (takes_guarded takes complains).weaken
  intro exchanges result course
  rcases course with ⟨found, ⟨answer, rfl, rfl⟩, rfl⟩
  exact ⟨answer, rfl, rfl⟩

/-- A change that is given up before its request has the failure for an outcome. -/
theorem takes_guarded_refused (failure : Failure) {change : Job Json}
    {complain : Wording → Job Unit} {success : Wording}
    (refused : change.Takes station (Course.settled (.error failure)))
    (complains : ∀ reason, (complain reason).Takes station (Course.settled (.ok ()))) :
    (guarded change complain success).Takes station
      (Course.settled (.ok (.failed failure.message))) := by
  apply (takes_guarded refused complains).weaken
  intro exchanges result course
  rcases course with ⟨found, ⟨rfl, rfl⟩, rfl⟩
  exact ⟨rfl, rfl⟩

theorem takes_addReaction (comment : Json) :
    (addReaction context comment (.text "+1")).Takes station
      (Course.asks (.reaction station.service context.repository comment) fun answer =>
        .ok (Outcome.ofAnswer answer)) :=
  takes_guarded_asks (Service.takes_createReaction _ _) fun _ => Job.Takes.record _ _

theorem takes_postComment {comment : Wording} (spoken : Text.isAllBlank comment.shown = false) :
    (postComment context (.text comment)).Takes station
      (Course.asks (.comment station.service context.repository context.number comment)
        fun answer => .ok (Outcome.ofAnswer answer)) := by
  refine takes_guarded_asks ?_ fun _ => Job.Takes.record _ _
  refine Job.Takes.liftOk (?_ : _ = Except.ok comment) (Service.takes_createComment _ _ _)
  rw [Json.requireNonBlank_text comment spoken]
  rfl

theorem takes_say {comment : Wording} (spoken : Text.isAllBlank comment.shown = false) :
    (say context comment).Takes station
      (Course.asks (.comment station.service context.repository context.number comment)
        fun _ => .ok ()) :=
  Job.Takes.askOk (takes_postComment spoken) fun answer => .pure ⟨answer, rfl, rfl⟩

theorem takes_addAssignees {login : String} (spoken : Text.isAllBlank login = false)
    (word : (Json.text login).isSearchWord = true) :
    (addAssignees context (.list [.text login])).Takes station
      (Course.asks (.assignees station.service context.repository context.number [login])
        fun answer => .ok (Outcome.ofAnswer answer)) := by
  refine takes_guarded_asks ?_ fun _ => Job.Takes.record _ _
  refine Job.Takes.liftOk (?_ : _ = Except.ok ()) (Service.takes_addAssignees _ _ [login])
  rw [checkItems, Json.requireLogin_text spoken word]
  rfl

theorem takes_addLabel {label : Wording} (spoken : Text.isAllBlank label.shown = false) :
    (addLabels context (.list [.text label])).Takes station
      (Course.asks (.labelAddition station.service context.repository context.number [label])
        fun answer => .ok (Outcome.ofAnswer answer)) := by
  refine takes_guarded_asks ?_ fun _ => Job.Takes.record _ _
  refine Job.Takes.liftOk (?_ : _ = Except.ok ()) (Service.takes_addLabels _ _ [label])
  rw [checkItems, Json.requireNonBlank_text label spoken]
  rfl

theorem takes_removeLabel {label : String} (spoken : Text.isAllBlank label = false) :
    (removeLabel context (.text label)).Takes station
      (Course.asks (.labelRemoval station.service context.repository context.number label)
        fun answer => .ok (Outcome.ofAnswer answer)) := by
  refine takes_guarded_asks ?_ fun _ => Job.Takes.record _ _
  refine Job.Takes.liftOk (?_ : _ = Except.ok (label : Wording)) ?_
  · rw [Json.requireNonBlank_text label spoken]
    rfl
  · exact Job.Takes.liftOk rfl (Service.takes_removeLabel _ _ label)

/-- A label with surrogates cannot stand in an address, and so is not asked for. -/
theorem takes_removeLabel_of_broken {label : Wording} {fault : Wording.Fault}
    (spoken : Text.isAllBlank label.shown = false) (broken : label.IsBrokenBy fault) :
    (removeLabel context (.text label)).Takes station
      (Course.settled (.ok (.failed (surrogateMessage fault)))) := by
  have barred : (Json.text label).requireEncodable = .error (.unencodable fault) := by
    rw [Json.requireEncodable, broken.encodable_eq]
    rfl
  refine takes_guarded_refused (.unencodable fault) ?_ fun _ => Job.Takes.record _ _
  rw [Json.requireNonBlank_text label spoken, barred]
  exact .ofExcept ⟨rfl, rfl⟩

end Action

end Steward
