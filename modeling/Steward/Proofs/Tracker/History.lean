import Steward.Proofs.Tracker.Easing
import Steward.Proofs.Tracker.Step

/-! Limits in histories. Whatever happens between the runs of the bot, and whatever fails in them,
nobody comes to hold more issues than the limit by the bot's doing. -/

namespace Steward.Tracker

open Assignment

/-! ## Exchanges -/

section

variable {site : Site} {before after : Tracker} {exchange : Exchange} {exchanges : List Exchange}

theorem Serves.eq_of_idle (serves : Serves site before exchange after)
    (idle : exchange.request.Idle site.base) : after = before := by
  cases serves with
  | changed change asked => exact absurd (asked ▸ idle) change.request_not_idle
  | unchanged => rfl

theorem Serves.eq_of_change {change : Change} (serves : Serves site before exchange after)
    (asked : exchange.request = change.request site) :
    after = change.apply site before ∨ after = before := by
  cases serves with
  | changed other askedAgain =>
      have same := Change.request_injective (askedAgain.symm.trans asked)
      exact .inl (by rw [same])
  | unchanged => exact .inr rfl

theorem ServesAll.eq_of_idle (serves : ServesAll site before exchanges after)
    (idle : ∀ exchange ∈ exchanges, exchange.request.Idle site.base) : after = before := by
  induction serves with
  | nil => rfl
  | cons first others induction =>
      rw [induction fun other member => idle other (List.mem_cons_of_mem _ member),
        first.eq_of_idle (idle _ List.mem_cons_self)]

theorem ServesAll.append {first second : List Exchange}
    (serves : ServesAll site before (first ++ second) after) :
    ∃ middle, ServesAll site before first middle ∧ ServesAll site middle second after := by
  induction first generalizing before with
  | nil => exact ⟨before, .nil, serves⟩
  | cons exchange first induction =>
      cases serves with
      | cons head others =>
          rcases induction others with ⟨middle, left, right⟩
          exact ⟨middle, .cons head left, right⟩

/-- An error tells no number. -/
theorem not_tells_of_isError {answer : Answer} {count : Int} (error : answer.IsError) :
    ¬answer.Tells count := by
  intro told
  cases told with
  | reply accepted =>
      cases error with
      | rejected bad => omega

/-! ## Searches -/

/-- The search for the open issues of somebody finds those that they hold. -/
theorem count_eq_held {login : String} :
    before.count site
        [.repository (site.repository.owner ++ "/" ++ site.repository.name), .issues, .isOpen,
          .assignee login, .unlabelled Label.blocked] =
      before.held site login := by
  refine congrArg Finset.card (Finset.filter_congr fun number _ => ?_)
  simp only [List.forall_mem_cons, List.not_mem_nil, false_implies, implies_true, and_true,
    Clause.Holds, true_and]
  constructor
  · intro holds
    exact ⟨holds.1, holds.2.2, holds.2.1⟩
  · intro held
    exact ⟨held.stillOpen, held.assigned, held.free⟩

theorem Serves.truthful (serves : Serves site before exchange after)
    (idle : exchange.request.Idle site.base) {query : Wording} {clauses : List Clause}
    (asked : exchange.request = .count site.base query)
    (understood : Query.clauses? query = some clauses) :
    exchange.answer.IsError ∨ exchange.answer.Tells (before.count site clauses) := by
  cases serves with
  | changed change asked => exact absurd (asked ▸ idle) change.request_not_idle
  | unchanged truthful => exact truthful query clauses asked understood

/-- Whoever has been cleared holds fewer issues than the limit. -/
theorem held_lt_of_cleared {context : Context} {login : String} {level : SkillLevel}
    {issue comment user : List (Wording × Json)} {body : Wording}
    (serves : ServesAll site before exchanges after)
    (cleared : Cleared site.base context login level exchanges)
    (commented : context.Commented issue comment user login body)
    (place : context.repository = site.repository) :
    before.held site login < maximumOpen := by
  have understood : Query.clauses? (searchOf context login Search.openState "").query =
      some [.repository (site.repository.owner ++ "/" ++ site.repository.name), .issues, .isOpen,
        .assignee login, .unlabelled Label.blocked] := by
    rw [← place]
    exact Search.clauses?_query commented.owner commented.repository commented.author
  have told {first : Answer} {rest : List Exchange} {held : Int}
      (serves : ServesAll site before (openSearched site.base context login first :: rest) after)
      (toldHeld : first.Tells held) (room : held < maximumOpen) :
      before.held site login < maximumOpen := by
    cases serves with
    | cons search others =>
        rcases search.truthful (.count _) rfl understood with error | toldCount
        · exact absurd toldHeld (not_tells_of_isError error)
        · have same := toldHeld.unique toldCount
          rw [count_eq_held] at same
          omega
  cases cleared with
  | needless _ toldHeld room => exact told serves toldHeld room
  | met _ toldHeld room => exact told serves toldHeld room

/-! ## Runs of the bot -/

inductive IsMild (site : Site) : Request → Prop
  | idle {request : Request} (idle : request.Idle site.base) : IsMild site request
  | addLabels (number : Nat) (names : List String) :
      IsMild site ((Change.addLabels number names).request site)
  | removeReady (number : Nat) :
      IsMild site ((Change.removeLabel number Label.readyForDev).request site)

theorem Serves.eases (serves : Serves site before exchange after)
    (mild : IsMild site exchange.request) : before.Eases site after := by
  have changes {change : Change} (asked : exchange.request = change.request site)
      (eases : before.Eases site (change.apply site before)) : before.Eases site after := by
    rcases serves.eq_of_change asked with changed | unchanged
    · rw [changed]
      exact eases
    · rw [unchanged]
      exact .refl before
  generalize asked : exchange.request = request at mild
  cases mild with
  | idle idle =>
      rw [serves.eq_of_idle (asked ▸ idle)]
      exact .refl before
  | addLabels number names =>
      exact changes asked (eases_update (fun _ _ held => held.of_addLabels) fun _ => subset_rfl)
  | removeReady number =>
      exact changes asked (eases_update (fun _ _ held => held.of_removeLabel) fun _ => subset_rfl)

theorem ServesAll.eases (serves : ServesAll site before exchanges after)
    (mild : ∀ exchange ∈ exchanges, IsMild site exchange.request) : before.Eases site after := by
  induction serves with
  | nil => exact .refl _
  | cons first others induction =>
      have step := first.eases (mild _ List.mem_cons_self)
      exact step.trans (induction fun other member => mild other (List.mem_cons_of_mem _ member))

/-- An assignment is followed by comments and by changes of status labels. -/
theorem assignCourse_begins {context : Context} {login : String} {level : SkillLevel}
    {number : Nat} {result : Except Failure Decision}
    (course : AssignCourse site.base context login level exchanges result)
    (place : context.repository = site.repository) (numbered : context.number = number) :
    ∃ first rest, exchanges = first :: rest ∧
      first.request = (Change.assign number [login]).request site ∧
      ∀ exchange ∈ rest, IsMild site exchange.request := by
  have said (text : Wording) (answer : Answer) :
      IsMild site (said site.base context text answer).request := .idle (.comment _ _ _)
  have removed (answer : Answer) :
      IsMild site (readyRemoved site.base context answer).request := by
    rw [readyRemoved, place, numbered]
    exact .removeReady number
  have added (answer : Answer) : IsMild site (progressAdded site.base context answer).request := by
    rw [progressAdded, place, numbered]
    exact .addLabels number [Label.inProgress]
  have assigns (answer : Answer) : (assigneeAdded site.base context login answer).request =
      (Change.assign number [login]).request site := by
    rw [assigneeAdded, place, numbered]
    rfl
  cases course with
  | refused => exact ⟨_, _, rfl, assigns _, by simp [said]⟩
  | moved => exact ⟨_, _, rfl, assigns _, by simp [said, removed, added]⟩
  | unmoved => exact ⟨_, _, rfl, assigns _, by simp [said, removed, added]⟩

/-- Nobody is assigned to an issue whose event tells of no assignees. -/
theorem assignees_eq_empty {number : Nat} {event : Event} (told : before.IsToldBy site number event)
    (free : (Event.valueAt event.payload ["issue", "assignees"]).isFalsy = true) :
    (before.issue number).assignees = ∅ := by
  rcases told.assignees with ⟨items, logins, itemsAre, named, same⟩
  rw [itemsAre] at free
  have none_ : items = [] := by simpa [Json.isFalsy] using free
  rw [none_, List.map_nil, eq_comm, List.map_eq_nil_iff] at named
  rw [← same, named]
  rfl

/-- What a run does: nothing that matters, or it assigns a free issue to somebody who holds fewer
than the limit. -/
inductive RunEffect (site : Site) (before after : Tracker) : Prop
  | eases (eases : before.Eases site after)
  | assigns {number : Nat} {login : String} (free : (before.issue number).assignees = ∅)
      (room : before.held site login < maximumOpen)
      (eases : ((Change.assign number [login]).apply site before).Eases site after)

theorem runEffect_of_cleared {number : Nat} {event : Event} {settings : Settings}
    {context : Context} {issue comment user : List (Wording × Json)} {login : String}
    {body : Wording} {level : SkillLevel} {answer : Answer} {searches changes : List Exchange}
    {result : Except Failure Decision} (told : before.IsToldBy site number event)
    (accepted : Context.ofEvent true (some event) settings = .ok context)
    (isComment : context.event = Context.commentEvent)
    (issueIs : Event.valueAt event.payload ["issue"] = .object issue)
    (commented : context.Commented issue comment user login body)
    (serves : ServesAll site before
      (reacted site.base context comment answer :: (searches ++ changes)) after)
    (issueLets : IssueCourse site.base context issue login [] (.ok (.through level)))
    (cleared : Cleared site.base context login level searches)
    (ends : AssignCourse site.base context login level changes result) :
    RunEffect site before after := by
  have place : context.repository = site.repository := by
    rcases Context.ofEvent_repository accepted with ⟨owner, name⟩
    have owners := Json.eq_of_text (owner.symm.trans told.owner)
    have names := Json.eq_of_text (name.symm.trans told.repository)
    exact congr (congrArg Repository.mk owners) names
  have numbered : context.number = number :=
    Json.integer.inj ((Context.ofEvent_number accepted isComment).symm.trans told.numbered)
  have free : (before.issue number).assignees = ∅ := by
    refine assignees_eq_empty told ?_
    rw [Event.valueAt_cons, issueIs]
    cases issueLets with
    | through free => exact free
  cases serves with
  | cons reaction others =>
      have quiet := reaction.eq_of_idle (.reaction _ _)
      subst quiet
      rcases others.append with ⟨middle, searching, changing⟩
      have room := held_lt_of_cleared searching cleared commented place
      have still := searching.eq_of_idle cleared.idle
      subst still
      rcases assignCourse_begins ends place numbered with ⟨first, rest, rfl, asked, mild⟩
      cases changing with
      | cons assignment following =>
          rcases assignment.eq_of_change asked with assigned | unassigned
          · rw [assigned] at following
            exact .assigns free room (following.eases mild)
          · rw [unassigned] at following
            exact .eases (following.eases mild)

theorem BotStep.effect (step : BotStep site before after) : RunEffect site before after := by
  cases step with
  | @run number event source station answers files served told serves =>
      rcases Bot.Comment.takes_run event source station (.start answers files) with
        ⟨exchanges, reached, course⟩
      rw [← reached.eq_pair] at serves
      rw [served] at course
      generalize (Bot.Comment.run (some event) source.job station (.start answers files)).1 =
        result at course
      cases course with
      | unconcerned =>
          cases serves
          exact .eases (.refl before)
      | @dispatched known context issue comment user login body _ _ _ accepted isComment issueIs
          _ commented course =>
          cases course with
          | ignored =>
              cases serves
              exact .eases (.refl before)
          | handled asks course =>
              rcases course.idle_or_assigns with
                idle | ⟨level, answer, searches, changes, rfl, issueLets, cleared, ends⟩
              · rw [serves.eq_of_idle idle]
                exact .eases (.refl before)
              · exact runEffect_of_cleared told accepted isComment issueIs commented serves
                  issueLets cleared ends

/-! ## Invariants -/

theorem OtherStep.eases (step : OtherStep before after) : before.Eases site after := by
  cases step with
  | close number =>
      exact eases_update (fun _ _ held => absurd held Issue.not_isHeldBy_close) fun _ => subset_rfl
  | unassign number login =>
      exact eases_update (fun _ _ held => held.of_unassign) fun _ => Finset.erase_subset _ _
  | addLabels number names =>
      exact eases_update (fun _ _ held => held.of_addLabels) fun _ => subset_rfl

theorem RunEffect.held_le (effect : RunEffect site before after) (login : String) :
    after.held site login ≤ max maximumOpen (before.held site login) := by
  cases effect with
  | eases eases => exact (eases.held_le login).trans (le_max_right _ _)
  | @assigns number other _ room eases =>
      have bound := (eases.held_le login).trans held_assign_le
      by_cases same : site.form other = site.form login
      · rw [if_pos same] at bound
        rw [held_congr same] at room
        omega
      · rw [if_neg same] at bound
        omega

/-- No run adds an assignee to an issue that has one. -/
theorem RunEffect.assignees_subset (effect : RunEffect site before after) {number : Nat}
    (taken : (before.issue number).assignees.Nonempty) :
    (after.issue number).assignees ⊆ (before.issue number).assignees := by
  cases effect with
  | eases eases => exact eases.assignees number
  | @assigns other login free _ eases =>
      have different : number ≠ other := by
        intro same
        rw [same, free] at taken
        exact Finset.not_nonempty_empty taken
      have others := eases.assignees number
      rwa [Change.apply, issue_update_of_ne different] at others

theorem Step.held_le (step : Step site before after) (login : String) :
    after.held site login ≤ max maximumOpen (before.held site login) := by
  cases step with
  | inl bot => exact bot.effect.held_le login
  | inr other => exact (other.eases.held_le login).trans (le_max_right _ _)

/-- Through a whole history nobody comes to hold more issues than the limit, unless they held more
from the start; and no run after it adds an assignee to an issue that has one. -/
theorem held_le_of_history {initial final : Tracker} (history : History site initial final) :
    (∀ login, final.held site login ≤ max maximumOpen (initial.held site login)) ∧
      ∀ after number, BotStep site final after → (final.issue number).assignees.Nonempty →
        (after.issue number).assignees ⊆ (final.issue number).assignees := by
  refine ⟨fun login => ?_, fun after number step taken => step.effect.assignees_subset taken⟩
  induction history with
  | refl => exact le_max_right _ _
  | tail _ step induction =>
      have next := step.held_le login
      omega

end

def askingSite : Site := .caseless askingStation.service askingContext.repository

def freeTracker : Tracker := ⟨{7}, fun _ => ⟨true, askedLabels.toFinset, ∅⟩⟩

def assignedTracker : Tracker := (Change.assign 7 ["ada"]).apply askingSite freeTracker

theorem isToldBy_asking : freeTracker.IsToldBy askingSite 7 asking where
  named := rfl
  owner := rfl
  repository := rfl
  known := Finset.mem_singleton_self 7
  numbered := rfl
  labels := ⟨_, askedLabels, rfl, rfl, rfl⟩
  assignees := ⟨[], [], rfl, rfl, rfl⟩

theorem grant_asking :
    Bot.Comment.Grant asking .standard [.standard, nothingFound] askingContext "ada"
      .goodFirstIssue where
  accepted := ofEvent_asking
  isComment := rfl
  asks := ⟨nofun, "/assign", rfl, by decide +kernel⟩
  author := rfl
  entitled := entitled_asking

/-- The search of the run is answered truly. -/
theorem serves_search {answer : Answer} (answerIs : answer = nothingFound) :
    Serves askingSite freeTracker (openSearched askingSite.base askingContext "ada" answer)
      freeTracker := by
  refine .unchanged fun query clauses asked understood => .inr ?_
  have same := Request.count_injective asked
  have known : Query.clauses? (searchOf askingContext "ada" Search.openState "").query = some _ :=
    Search.clauses?_query (by decide) (by decide) (by decide)
  rw [same, understood] at known
  cases known
  have none_ : freeTracker.count askingSite
      [.repository (askingContext.repository.owner ++ "/" ++ askingContext.repository.name),
        .issues,
        .isOpen, .assignee "ada", .unlabelled Label.blocked] = 0 := by
    simp [Tracker.count, freeTracker, Clause.Holds, Site.Has]
  rw [none_, openSearched, searched, answerIs]
  exact tells_nothingFound

theorem botStep_asking : BotStep askingSite freeTracker assignedTracker := by
  have run := Bot.Comment.takes_run asking (.given .standard) askingStation
    (.start [.standard, nothingFound] [])
  rcases run with ⟨exchanges, reached, course⟩
  rcases course.of_grant reached.eq_pair rfl grant_asking with
    ⟨comment, answer, searches, changes, _, split, cleared, ends⟩
  have inTurn : ∀ exchange, exchanges[1]? = some exchange → exchange.answer = nothingFound :=
    fun exchange found => Exchange.answer_of_pair (reached.eq_pair ▸ found)
  have serves : ServesAll askingSite freeTracker exchanges assignedTracker := by
    rw [split]
    refine .cons (.unchanged fun query clauses asked _ => ?_) ?_
    · have topics := congrArg Request.topic asked
      simp [reacted, Request.reaction, Request.count, Request.post, Request.topic] at topics
    · refine ServesAll.trans ?_ (servesAll_assignCourse ends rfl rfl)
      cases cleared with
      | met asks => cases asks
      | needless none_ told room =>
          exact .cons (serves_search (inTurn _ (by rw [split]; rfl))) .nil
  rw [reached.eq_pair] at serves
  exact .run (rfl : askingStation.service = askingSite.base) isToldBy_asking serves

theorem held_le_of_history_asking :
    History askingSite freeTracker assignedTracker ∧
      (∀ login, assignedTracker.held askingSite login ≤
        max maximumOpen (freeTracker.held askingSite login)) ∧
      ∀ after number, BotStep askingSite assignedTracker after →
        (assignedTracker.issue number).assignees.Nonempty →
          (after.issue number).assignees ⊆ (assignedTracker.issue number).assignees := by
  have history : History askingSite freeTracker assignedTracker := .single (.inl botStep_asking)
  exact ⟨history, held_le_of_history history⟩

end Steward.Tracker
