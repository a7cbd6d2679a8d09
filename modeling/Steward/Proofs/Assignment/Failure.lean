import Steward.Proofs.Bot.Comment

/-! Requests for assignment that fail. They fail at a gate, where so far something has been asked
but nothing changed; behind the gates no answer makes them fail. -/

namespace Steward.Assignment

/-! ## Gates -/

section

variable {base : String} {context : Context} {issue comment : List (Wording × Json)}
  {login : String} {exchanges : List Exchange} {level : SkillLevel} {failure : Failure}

def Searches (base : String) (most : Nat) (exchanges : List Exchange) : Prop :=
  exchanges.length ≤ most ∧ ∀ exchange ∈ exchanges, ∃ query, exchange.request = .count base query

theorem Searches.searched {state label : String} {answer : Answer} :
    Searches base 1 [searched base context login state label answer] :=
  ⟨Nat.le_refl 1, fun _ member => List.mem_singleton.mp member ▸ ⟨_, rfl⟩⟩

theorem Searches.mono {most more : Nat} (searches : Searches base most exchanges)
    (fewer : most ≤ more) : Searches base more exchanges :=
  ⟨Nat.le_trans searches.1 fewer, searches.2⟩

theorem Searches.append {first second : List Exchange} {most more : Nat}
    (searches : Searches base most first) (others : Searches base more second) :
    Searches base (most + more) (first ++ second) := by
  constructor
  · have fewFirst := searches.1
    have fewSecond := others.1
    rw [List.length_append]
    omega
  · exact List.forall_mem_append.mpr ⟨searches.2, others.2⟩

theorem IssueCourse.unasked_of_error
    (course : IssueCourse base context issue login exchanges (.error failure)) :
    exchanges = [] := by
  cases course with
  | badAssignees | badLabels => rfl

theorem LimitCourse.searches_of_through
    (course : LimitCourse base context login exchanges (.ok (.through ()))) :
    Searches base 1 exchanges := by
  cases course with
  | within => exact .searched

theorem LimitCourse.searches_of_error
    (course : LimitCourse base context login exchanges (.error failure)) :
    Searches base 2 exchanges := by
  cases course with
  | unreadable => exact Searches.searched.mono (by decide)
  | blockedUnreadable => exact Searches.searched.append .searched

theorem PrerequisiteCourse.searches_of_error
    (course : PrerequisiteCourse base context login level exchanges (.error failure)) :
    Searches base 1 exchanges := by
  cases course with
  | unreadable => exact .searched

/-- Behind the gates a request always comes to a decision. -/
theorem AssignCourse.decided {result : Except Failure Decision}
    (course : AssignCourse base context login level exchanges result) :
    result = .ok .assigned ∨ result = .ok .assignmentFailed := by
  cases course with
  | refused => exact .inr rfl
  | moved | unmoved => exact .inl rfl

/-! ## Whole requests -/

/-- A request that fails has been given its thumb up, and been searched for at most twice. -/
theorem RequestCourse.searches_of_error
    (course : RequestCourse base context issue comment login exchanges (.error failure)) :
    ∃ answer searches, exchanges = reacted base context comment answer :: searches ∧
      Searches base 2 searches := by
  cases course with
  | issueFails fails =>
      rw [fails.unasked_of_error]
      exact ⟨_, [], rfl, Nat.zero_le 2, nofun⟩
  | limitFails _ fails => exact ⟨_, _, rfl, fails.searches_of_error⟩
  | prerequisiteFails _ limitLets fails =>
      exact ⟨_, _, rfl, limitLets.searches_of_through.append fails.searches_of_error⟩
  | assigns _ _ _ ends => cases ends.decided <;> contradiction

theorem RequestCourse.decided_of_assigns {result : Except Failure Decision} {exchange : Exchange}
    (course : RequestCourse base context issue comment login exchanges result)
    (member : exchange ∈ exchanges) (assigns : exchange.request.isAssignment = true) :
    result = .ok .assigned ∨ result = .ok .assignmentFailed := by
  rcases course.idle_or_assigns with idle | ⟨_, _, _, _, -, -, -, ends⟩
  · rw [(idle exchange member).not_isAssignment] at assigns
    cases assigns
  · exact ends.decided

end

/-- Once an issue has been assigned, the request for it comes to a decision whatever is answered. -/
theorem handle_decided {event : Option Event} {settings : Settings} {context : Context}
    {station : Station} {answers : List Answer} {files : Files}
    (accepted : Context.ofEvent true event settings = .ok context)
    (isComment : context.event = Context.commentEvent)
    (assigns : ∃ request ∈ (handle context station (.start answers files)).2.requests,
      request.isAssignment = true) :
    (handle context station (.start answers files)).1 = .ok .assigned ∨
      (handle context station (.start answers files)).1 = .ok .assignmentFailed := by
  rcases Context.ofEvent_commented accepted isComment with
    ⟨_, issue, comment, user, login, body, -, -, -, -, -, commented⟩
  rcases takes_handle commented (.start answers files) with ⟨exchanges, reached, course⟩
  rcases assigns with ⟨request, member, isAssignment⟩
  have requests : (handle context station (.start answers files)).2.requests =
      exchanges.map Exchange.request := reached.requests
  rw [requests] at member
  rcases List.mem_map.mp member with ⟨exchange, known, rfl⟩
  exact course.decided_of_assigns known isAssignment

end Steward.Assignment

namespace Steward.Bot.Comment

open Assignment

/-- Without an event there is nothing to ask for. -/
theorem takes_run_none (source : Settings.Source) (station : Station) (session : Session) :
    (run none source.job).TakesFrom station session Course.quiet := by
  refine .named (.onFailure (source.takesFrom_context ?_ fun _ _ => rfl)
    fun _ => Job.Takes.record _ _)
  intro known context settingsAre accepted
  cases accepted

/-- The requests of a run that fails: a reaction at most, and after it at most two searches. -/
inductive Preliminaries (base : String) : List Request → Prop
  | nothing : Preliminaries base []
  | reaction {repository : Repository} {comment : Json} {searches : List Request}
      (few : searches.length ≤ 2)
      (searching : ∀ search ∈ searches, ∃ query, search = .count base query) :
      Preliminaries base (.reaction base repository comment :: searches)

theorem RunCourse.preliminaries {base : String} {event : Event}
    {settings : Except Failure Settings} {exchanges : List Exchange} {failure : Failure}
    (course : RunCourse base event settings exchanges (.error failure)) :
    Preliminaries base (exchanges.map Exchange.request) := by
  generalize raised : Except.error failure = result at course
  cases course with
  | unconcerned => exact .nothing
  | dispatched _ _ _ _ _ _ course =>
      cases course with
      | ignored => cases raised
      | @handled _ outcome _ course =>
          cases outcome with
          | ok decision => cases raised
          | error failure =>
              rcases course.searches_of_error with ⟨answer, searches, rfl, few, searching⟩
              refine .reaction (by simpa using few) ?_
              simpa using searching

/-- A run that fails has asked for nothing but a reaction and up to two searches, so nothing has
changed. Once a request has gone as far as to assign the issue, it comes to a decision whatever is
answered from there on. -/
theorem fails_before_changes (event : Option Event) (source : Settings.Source) (station : Station)
    (answers : List Answer) (files : Files) :
    (∀ failure, (run event source.job station (.start answers files)).1 = .error failure →
      Preliminaries station.service
        (run event source.job station (.start answers files)).2.requests) ∧
    ∀ settings context, Context.ofEvent true event settings = .ok context →
      context.event = Context.commentEvent →
      (∃ request ∈ (handle context station (.start answers files)).2.requests,
        request.isAssignment = true) →
      (handle context station (.start answers files)).1 = .ok .assigned ∨
        (handle context station (.start answers files)).1 = .ok .assignmentFailed := by
  refine ⟨fun failure raised => ?_, fun settings context accepted isComment assigns =>
    handle_decided accepted isComment assigns⟩
  cases event with
  | none =>
      rcases takes_run_none source station (.start answers files) with ⟨exchanges, reached, quiet⟩
      rw [reached.requests, quiet]
      exact .nothing
  | some event =>
      rcases takes_run event source station (.start answers files) with
        ⟨exchanges, reached, course⟩
      rw [raised] at course
      rw [reached.requests]
      exact course.preliminaries

end Steward.Bot.Comment
