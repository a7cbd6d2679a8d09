import Steward.Command
import Steward.Proofs.Assignment.Gate

/-! Comments that are commands. A command is followed if a person gave it, and nothing happens to
any other comment. -/

namespace Steward.Command

structure Asks (comment : Json) : Prop where
  person : Event.valueAt comment ["user", "type"] ≠ .text "Bot"
  command : ∃ body : Wording,
    Event.valueAt comment ["body"] = .text body ∧ ofComment? body.shown = some .assign

inductive DispatchCourse (base : String) (context : Context)
    (issue comment : List (Wording × Json)) (login : String) : Course (List Assignment.Decision)
  | ignored (other : ¬Asks (.object comment)) :
      DispatchCourse base context issue comment login [] (.ok [])
  | handled {exchanges : List Exchange} {result : Except Failure Assignment.Decision}
      (asks : Asks (.object comment))
      (course : Assignment.RequestCourse base context issue comment login exchanges result) :
      DispatchCourse base context issue comment login exchanges
        (result.map fun decision => [decision])

variable {station : Station} {context : Context} {issue comment user : List (Wording × Json)}
  {login : String} {body : Wording}

theorem takes_detect (text : Wording) :
    (detect (.text text)).Takes station
      (Course.settled (.ok (ofComment? text.shown).toList)) := by
  cases known : ofComment? text.shown with
  | none =>
      simp only [detect, known]
      exact .info (.pure ⟨rfl, rfl⟩)
  | some command =>
      simp only [detect, known]
      exact .info (.pure ⟨rfl, rfl⟩)

theorem takes_dispatch (commented : context.Commented issue comment user login body) :
    (dispatch context).Takes station
      (DispatchCourse station.service context issue comment login) := by
  have part : Context.part context.comment = .object comment := by rw [commented.commentIs]; rfl
  have userAt (name : String) :
      Event.valueAt (.object comment) ["user", name] = Json.lookup user name := by
    rw [Event.valueAt, commented.userIs, Event.valueAt_object]
  have bodyAt : Event.valueAt (.object comment) ["body"] = .text body := commented.bodyIs
  unfold dispatch
  simp only [part, Json.orEmpty_object]
  refine .liftOk rfl ?_
  simp only [commented.userIs, Json.orEmpty_object]
  refine .liftOk rfl ?_
  rw [if_neg (by simp [commented.loginIs, Json.isFalsy_text login commented.spoken])]
  refine .liftOk rfl ?_
  by_cases robot : (Json.lookup user "type").text? = some "Bot"
  · rw [if_pos robot]
    refine .info (.pure (.ignored fun asks => asks.person ?_))
    rw [userAt, Json.text?_eq_some_iff.mp robot]
  · rw [if_neg robot]
    refine .liftOk rfl ?_
    rw [commented.bodyIs]
    apply Job.Takes.bind (takes_detect body)
    · intro exchanges commands detected
      rcases detected with ⟨rfl, found⟩
      cases found
      cases known : ofComment? body.shown with
      | none =>
          refine .info (.pure (.ignored fun asks => ?_))
          rcases asks.command with ⟨other, otherAt, command⟩
          cases bodyAt.symm.trans otherAt
          cases known.symm.trans command
      | some command =>
          cases command
          have person : Event.valueAt (.object comment) ["user", "type"] ≠ .text "Bot" := by
            intro isRobot
            exact robot (by rw [← userAt, isRobot]; rfl)
          have asks : Asks (.object comment) := ⟨person, body, bodyAt, known⟩
          apply Job.Takes.bind (Assignment.takes_handle commented)
          · intro exchanges decision course
            have handled : DispatchCourse station.service context issue comment login exchanges
              (.ok [decision]) := .handled asks course
            exact .pure (by simpa [Course.after] using handled)
          · intro exchanges failure course
            exact DispatchCourse.handled asks course
    · intro exchanges failure detected
      cases detected.2

end Steward.Command
