import Mathlib.Logic.Relation
import Steward.Proofs.Bot.Comment
import Steward.Proofs.Tracker.Change

/-! Histories of a tracker. Between the runs of the bot other things happen to the issues, and in a
run any answer may be an error. -/

namespace Steward.Tracker

open Assignment

/-! ## Steps -/

/-- An event tells of a comment on an issue, and of the issue as it is in the tracker. -/
structure IsToldBy (site : Site) (tracker : Tracker) (number : Nat) (event : Event) : Prop where
  named : event.name = .text Context.commentEvent
  owner : Event.valueAt event.repository ["owner"] = .text site.repository.owner
  repository : Event.valueAt event.repository ["repo"] = .text site.repository.name
  known : number ∈ tracker.numbers
  numbered : Event.valueAt event.payload ["issue", "number"] = .integer number
  labels : ∃ (items : List Json) (names : List String),
    Event.valueAt event.payload ["issue", "labels"] = .list items ∧
      items.map (Event.valueAt · ["name"]) = names.map (fun name : String => .text name) ∧
      names.toFinset = (tracker.issue number).labels
  assignees : ∃ (items : List Json) (logins : List String),
    Event.valueAt event.payload ["issue", "assignees"] = .list items ∧
      items.map (Event.valueAt · ["login"]) = logins.map (fun login : String => .text login) ∧
      logins.toFinset = (tracker.issue number).assignees

/-- A whole run of the bot, whatever it comes to. -/
inductive BotStep (site : Site) : Tracker → Tracker → Prop
  | run {before after : Tracker} {number : Nat} {event : Event} {source : Settings.Source}
      {station : Station} {answers : List Answer} {files : Files}
      (served : station.service = site.base) (told : before.IsToldBy site number event)
      (exchanges : ServesAll site before
        (Exchange.pair answers
          (Bot.Comment.run (some event) source.job station (.start answers files)).2.requests)
        after) :
      BotStep site before after

inductive OtherStep : Tracker → Tracker → Prop
  | close {tracker : Tracker} (number : Nat) : OtherStep tracker (tracker.update number Issue.close)
  | unassign {tracker : Tracker} (number : Nat) (login : String) :
      OtherStep tracker (tracker.update number (Issue.unassign login))
  | addLabels {tracker : Tracker} (number : Nat) (names : List String) :
      OtherStep tracker (tracker.update number (Issue.addLabels names))

def Step (site : Site) (before after : Tracker) : Prop :=
  BotStep site before after ∨ OtherStep before after

def History (site : Site) : Tracker → Tracker → Prop := Relation.ReflTransGen (Step site)

/-! ## A run -/

section

variable {site : Site}

/-- Requests that ask for no number can be served without any change. -/
theorem servesAll_unasked {tracker : Tracker} {exchanges : List Exchange}
    (unasked : ∀ exchange ∈ exchanges, exchange.request.topic ≠ some "query") :
    ServesAll site tracker exchanges tracker := by
  induction exchanges with
  | nil => exact .nil
  | cons exchange rest induction =>
      have first := unasked exchange List.mem_cons_self
      refine .cons (.unchanged fun query clauses asked _ => ?_)
        (induction fun other member => unasked other (List.mem_cons_of_mem _ member))
      rw [asked] at first
      exact absurd rfl first

/-- The changes of a run can be served by the assignment alone. -/
theorem servesAll_assignCourse {tracker : Tracker} {context : Context} {login : String}
    {level : SkillLevel} {number : Nat} {changes : List Exchange}
    {result : Except Failure Decision}
    (course : AssignCourse site.base context login level changes result)
    (place : context.repository = site.repository) (numbered : context.number = number) :
    ServesAll site tracker changes ((Change.assign number [login]).apply site tracker) := by
  have asked (answer : Answer) : (assigneeAdded site.base context login answer).request =
      (Change.assign number [login]).request site := by
    rw [assigneeAdded, place, numbered]
    rfl
  cases course with
  | refused | moved | unmoved =>
      refine .cons (.changed _ (asked _)) (servesAll_unasked ?_)
      simp [said, readyRemoved, progressAdded, Request.topic, Request.comment,
        Request.labelAddition, Request.labelRemoval, Request.post]

theorem ServesAll.trans {before middle after : Tracker} {first second : List Exchange}
    (serves : ServesAll site before first middle) (further : ServesAll site middle second after) :
    ServesAll site before (first ++ second) after := by
  induction serves with
  | nil => exact further
  | cons head others induction => exact .cons head (induction further)

end

end Steward.Tracker
