import Steward.Conflict
import Steward.Proofs.Request

/-! Polls for conflicts. The first answer in which the service has made up its mind decides; without
one the pull request counts as having no conflicts. -/

namespace Steward.Conflict

def polled (base : String) (repository : Repository) (number : Int) (answer : Answer) : Exchange :=
  ⟨.pull base repository number, answer⟩

def mergeableIn (answer : Answer) : Except Failure Json := do
  (← Service.decode answer).field "mergeable"

/-- The exchanges of at most `left` polls, with what they come to. -/
inductive PollCourse (base : String) (repository : Repository) (number : Int) :
    (left : Nat) → Course Bool
  | unsettled : PollCourse base repository number 0 [] (.ok false)
  | waits {left : Nat} {answer : Answer} {exchanges : List Exchange} {result : Except Failure Bool}
      (open_ : mergeableIn answer = .ok .null)
      (rest : PollCourse base repository number left exchanges result) :
      PollCourse base repository number (left + 1)
        (polled base repository number answer :: exchanges) result
  | settled {left : Nat} {answer : Answer} {mergeable : Json}
      (settled : mergeableIn answer = .ok mergeable) (known : mergeable ≠ .null) :
      PollCourse base repository number (left + 1) [polled base repository number answer]
        (.ok !mergeable.isTrue)
  | fails {left : Nat} {answer : Answer} {failure : Failure}
      (failed : mergeableIn answer = .error failure) :
      PollCourse base repository number (left + 1) [polled base repository number answer]
        (.error failure)

section

variable {station : Station} {repository : Repository} {number attempts : Int} {delay : Json}

theorem takes_poll (left : Nat) :
    (poll repository number attempts delay left).Takes station
      (PollCourse station.service repository number left) := by
  induction left with
  | zero => exact .info (.pure .unsettled)
  | succ left induction =>
      unfold poll
      apply Job.Takes.ask (Service.takes_getPull _ _)
      · intro answer pull decoded
        have read : mergeableIn answer = pull.field "mergeable" := by
          rw [mergeableIn, decoded, Except.ok_bind]
        refine .lift (fun mergeable found => ?_) fun failure failed => .fails (read.trans failed)
        rw [found] at read
        by_cases open_ : mergeable.isNull = true
        · have null : mergeable = .null := by cases mergeable <;> simp [Json.isNull] at open_ ⊢
          subst null
          have continues : (poll repository number attempts delay left).Takes station
              ((PollCourse station.service repository number (left + 1)).after
                [polled station.service repository number answer]) :=
            induction.weaken fun exchanges result course => .waits read course
          simp only [Json.isNull, if_true]
          split
          · exact .info (.remark (.pause _) continues)
          · exact continues
        · rw [if_neg open_]
          cases pull with
          | object members =>
              refine .liftOk rfl (.info (.pure (.settled read ?_)))
              intro null
              exact open_ (by rw [null]; rfl)
          | _ => cases found
      · intro answer failure failed
        exact .fails (by rw [mergeableIn, failed, Except.error_bind])

theorem takes_check (delay : Json) :
    (check repository number standardAttempts delay).Takes station
      (PollCourse station.service repository number 5) :=
  takes_poll 5

end

/-! ## Conclusions -/

def firstKnown (polls : List Exchange) : Option Json :=
  polls.findSome? fun poll =>
    match mergeableIn poll.answer with
    | .ok .null | .error _ => none
    | .ok mergeable => some mergeable

section

variable {base : String} {repository : Repository} {number : Int} {answer : Answer}
  {polls : List Exchange}

theorem firstKnown_open (open_ : mergeableIn answer = .ok .null) :
    firstKnown (polled base repository number answer :: polls) = firstKnown polls := by
  simp only [firstKnown, List.findSome?_cons, polled, open_]

theorem firstKnown_settled {mergeable : Json} (settled : mergeableIn answer = .ok mergeable)
    (known : mergeable ≠ .null) :
    firstKnown (polled base repository number answer :: polls) = some mergeable := by
  simp only [firstKnown, List.findSome?_cons, polled, settled]

end

namespace PollCourse

variable {base : String} {repository : Repository} {number : Int} {left : Nat}
  {polls : List Exchange} {result : Except Failure Bool}

theorem asks (course : PollCourse base repository number left polls result) :
    ∀ poll ∈ polls, ∃ answer, poll = polled base repository number answer := by
  induction course with
  | unsettled => simp
  | waits open_ rest induction => exact List.forall_mem_cons.mpr ⟨⟨_, rfl⟩, induction⟩
  | settled | fails =>
      intro poll member
      exact ⟨_, List.mem_singleton.mp member⟩

theorem conflicts_iff {conflicts : Bool}
    (course : PollCourse base repository number left polls (.ok conflicts)) :
    conflicts = true ↔ ∃ mergeable, firstKnown polls = some mergeable ∧ mergeable ≠ .bool true := by
  generalize outcome : Except.ok conflicts = result at course
  induction course with
  | unsettled =>
      cases outcome
      simp [firstKnown]
  | waits open_ rest induction =>
      rw [induction outcome, firstKnown_open open_]
  | @settled _ _ mergeable settled known =>
      cases outcome
      rw [firstKnown_settled settled known]
      simp [← Json.isTrue_iff]
  | fails => cases outcome

end PollCourse

end Steward.Conflict
