import Steward.Proofs.Assignment.Entitlement

/-! Trails of requests for assignment: by which searches and which answers to its author a request
comes to each decision. -/

namespace Steward.Assignment

section

variable (base : String) (context : Context) (login : String)

/-- The searches, and the exchanges after them, by which a request comes to a decision. Each
decision but one is told in a single comment, which is the end. -/
inductive Trail : Decision → List Exchange → List Exchange → Prop
  | alreadyAssigned {comment : Wording} {answer : Answer}
      (made : Comment.alreadyAssigned (.text login) (Context.part context.issue)
        context.repository = .ok comment) :
      Trail .alreadyAssigned [] [said base context comment answer]
  | notReady {answer : Answer} :
      Trail .notReady [] [said base context (Comment.notReady login context.repository) answer]
  | noSkillLabel {answer : Answer} :
      Trail .noSkillLabel []
        [said base context (Comment.noSkillLevel login context.settings) answer]
  | limitExceeded {first second posted : Answer} {held : Int} {blocked : Search.Count}
      (told : first.Tells held) (full : maximumOpen ≤ held)
      (counted : Search.reading second = .ok blocked) :
      Trail .limitExceeded
        [openSearched base context login first, blockedSearched base context login second]
        [said base context (Comment.limitExceeded login (toString held) context.repository
          (0 < blockedOf blocked)) posted]
  | heldUnverified {first posted : Answer} (untold : ∀ held, ¬first.Tells held) :
      Trail .serviceError [openSearched base context login first]
        [said base context (Comment.serviceError login context.settings) posted]
  | completedUnverified {level : SkillLevel} {prerequisite : SkillLevel.Prerequisite}
      {first second posted : Answer} {held : Int}
      (levelIs : SkillLevel.ofIssue (Context.part context.issue) = .ok (some level))
      (asks : level.prerequisite? = some prerequisite)
      (told : first.Tells held) (room : held < maximumOpen)
      (untold : ∀ completed, ¬second.Tells completed) :
      Trail .serviceError
        [openSearched base context login first,
          closedSearched base context login prerequisite.level second]
        [said base context (Comment.serviceError login context.settings) posted]
  | prerequisitesNotMet {level : SkillLevel} {prerequisite : SkillLevel.Prerequisite}
      {first second posted : Answer} {held completed : Int} {comment : String}
      (levelIs : SkillLevel.ofIssue (Context.part context.issue) = .ok (some level))
      (asks : level.prerequisite? = some prerequisite)
      (told : first.Tells held) (room : held < maximumOpen)
      (toldCompleted : second.Tells completed) (few : completed < prerequisite.count)
      (made : Comment.prerequisiteNotMet login level (toString completed) context.repository =
        .ok comment) :
      Trail .prerequisitesNotMet
        [openSearched base context login first,
          closedSearched base context login prerequisite.level second]
        [said base context comment posted]
  | assignmentFailed {level : SkillLevel} {searches : List Exchange} {answer posted : Answer}
      {failure : Failure}
      (levelIs : SkillLevel.ofIssue (Context.part context.issue) = .ok (some level))
      (cleared : Cleared base context login level searches)
      (refused : Service.decode answer = .error failure) :
      Trail .assignmentFailed searches
        [assigneeAdded base context login answer,
          said base context (Comment.assignmentFailure login failure.message context.settings)
            posted]
  | assigned {level : SkillLevel} {searches : List Exchange} {value first second : Json}
      {answer removed added welcomed : Answer}
      (levelIs : SkillLevel.ofIssue (Context.part context.issue) = .ok (some level))
      (cleared : Cleared base context login level searches)
      (accepted : Service.decode answer = .ok value)
      (removal : Service.decode removed = .ok first)
      (addition : Service.decode added = .ok second) :
      Trail .assigned searches
        [assigneeAdded base context login answer, readyRemoved base context removed,
          progressAdded base context added,
          said base context (Comment.welcome login level context.settings) welcomed]
  | assignedUnlabelled {level : SkillLevel} {searches : List Exchange} {value : Json}
      {answer removed added welcomed reported : Answer}
      (levelIs : SkillLevel.ofIssue (Context.part context.issue) = .ok (some level))
      (cleared : Cleared base context login level searches)
      (accepted : Service.decode answer = .ok value)
      (failed : ¬((∃ value, Service.decode removed = .ok value) ∧
        ∃ value, Service.decode added = .ok value)) :
      Trail .assigned searches
        [assigneeAdded base context login answer, readyRemoved base context removed,
          progressAdded base context added,
          said base context (Comment.welcome login level context.settings) welcomed,
          said base context (Comment.labelFailure login
            (Transition.ofAnswers Label.inProgress Label.readyForDev removed added).error
            context.settings) reported]

end

section

variable {base : String} {context : Context} {issue comment : List (Wording × Json)}
  {login : String} {exchanges : List Exchange} {level : SkillLevel}

/-! ## Trails of the gates -/

theorem IssueCourse.levelled
    (course : IssueCourse base context issue login exchanges (.ok (.through level)))
    (issueIs : Context.part context.issue = .object issue) :
    SkillLevel.ofIssue (Context.part context.issue) = .ok (some level) := by
  cases course with
  | through free named ready labelled => rw [issueIs, SkillLevel.ofIssue_eq named, labelled]

theorem IssueCourse.trail {decision : Decision}
    (course : IssueCourse base context issue login exchanges (.ok (.settled decision)))
    (issueIs : Context.part context.issue = .object issue) :
    Trail base context login decision [] exchanges := by
  cases course with
  | alreadyAssigned taken made => exact .alreadyAssigned (issueIs ▸ made)
  | notReady => exact .notReady
  | noSkillLabel => exact .noSkillLabel

theorem untold_of_unverified {answer : Answer} {reason : Wording}
    (read : Search.reading answer = .ok (.unverified reason)) (count : Int) :
    ¬answer.Tells count := by
  intro told
  cases read.symm.trans (Search.reading_eq_verified_iff.mpr told)

theorem LimitCourse.trail {decision : Decision}
    (course : LimitCourse base context login exchanges (.ok (.settled decision))) :
    ∃ searches replies, exchanges = searches ++ replies ∧
      Trail base context login decision searches replies := by
  cases course with
  | unverified read => exact ⟨[_], [_], rfl, .heldUnverified (untold_of_unverified read)⟩
  | exceeded read full blockedRead =>
      exact ⟨[_, _], [_], rfl,
        .limitExceeded (Search.reading_eq_verified_iff.mp read) full blockedRead⟩

theorem PrerequisiteCourse.trail {decision : Decision} {first : List Exchange}
    (course : PrerequisiteCourse base context login level exchanges (.ok (.settled decision)))
    (limitLets : LimitCourse base context login first (.ok (.through ())))
    (levelIs : SkillLevel.ofIssue (Context.part context.issue) = .ok (some level)) :
    ∃ searches replies, first ++ exchanges = searches ++ replies ∧
      Trail base context login decision searches replies := by
  cases limitLets with
  | within read room =>
      have told := Search.reading_eq_verified_iff.mp read
      cases course with
      | unverified asks readCompleted =>
          exact ⟨[_, _], [_], rfl,
            .completedUnverified levelIs asks told room (untold_of_unverified readCompleted)⟩
      | unmet asks readCompleted few made =>
          exact ⟨[_, _], [_], rfl, .prerequisitesNotMet levelIs asks told room
            (Search.reading_eq_verified_iff.mp readCompleted) few made⟩

theorem AssignCourse.trail {decision : Decision} {searches : List Exchange}
    (course : AssignCourse base context login level exchanges (.ok decision))
    (cleared : Cleared base context login level searches)
    (levelIs : SkillLevel.ofIssue (Context.part context.issue) = .ok (some level)) :
    Trail base context login decision searches exchanges := by
  cases course with
  | refused refused => exact .assignmentFailed levelIs cleared refused
  | moved accepted moved =>
      rcases Transition.succeeded_ofAnswers_iff.mp moved with
        ⟨⟨_, removal⟩, _, addition⟩
      exact .assigned levelIs cleared accepted removal addition
  | unmoved accepted unmoved =>
      refine .assignedUnlabelled levelIs cleared accepted fun both => ?_
      rw [Transition.succeeded_ofAnswers_iff.mpr both] at unmoved
      cases unmoved

theorem RequestCourse.trail {decision : Decision}
    (course : RequestCourse base context issue comment login exchanges (.ok decision))
    (issueIs : Context.part context.issue = .object issue) :
    ∃ answer searches replies,
      exchanges = reacted base context comment answer :: (searches ++ replies) ∧
        Trail base context login decision searches replies := by
  cases course with
  | issueSettles settles => exact ⟨_, [], _, rfl, settles.trail issueIs⟩
  | limitSettles issueLets settles =>
      rcases settles.trail with ⟨searches, replies, rfl, trail⟩
      exact ⟨_, searches, replies, rfl, trail⟩
  | prerequisiteSettles issueLets limitLets settles =>
      rcases settles.trail limitLets (issueLets.levelled issueIs) with
        ⟨searches, replies, split, trail⟩
      exact ⟨_, searches, replies, by rw [split], trail⟩
  | assigns issueLets limitLets prerequisiteLets ends =>
      exact ⟨_, _, _, rfl,
        ends.trail (limitLets.cleared prerequisiteLets) (issueLets.levelled issueIs)⟩

end

/-! ## Trails of runs -/

/-- Whatever the answers, a comment on an issue gets its thumb up, and then its request goes the
trail of the decision it comes to. -/
theorem handle_follows_trail {event : Option Event} {settings : Settings} {context : Context}
    {station : Station} {answers : List Answer} {files : Files} {decision : Decision}
    (accepted : Context.ofEvent true event settings = .ok context)
    (isComment : context.event = Context.commentEvent)
    (decided : (handle context station (.start answers files)).1 = .ok decision) :
    ∃ comment, ∃ login : String, ∃ answer searches replies,
      context.comment = some (.object comment) ∧
        Event.valueAt (.object comment) ["user", "login"] = .text login ∧
        Exchange.pair answers (handle context station (.start answers files)).2.requests =
          reacted station.service context comment answer :: (searches ++ replies) ∧
        Trail station.service context login decision searches replies := by
  rcases Context.ofEvent_commented accepted isComment with
    ⟨_, issue, comment, user, login, body, -, -, -, -, -, commented⟩
  have issueIs : Context.part context.issue = .object issue := by rw [commented.issueIs]; rfl
  have loginIs : Event.valueAt (.object comment) ["user", "login"] = .text login := by
    rw [Event.valueAt, commented.userIs, Event.valueAt_object, commented.loginIs]
  rcases takes_handle commented (.start answers files) with ⟨exchanges, reached, course⟩
  rw [decided] at course
  rcases course.trail issueIs with ⟨answer, searches, replies, split, trail⟩
  exact ⟨comment, login, answer, searches, replies, commented.commentIs, loginIs,
    reached.eq_pair.symm.trans split, trail⟩

theorem handle_follows_trail_asking :
    (handle askingContext askingStation (.start [.standard, nothingFound] [])).1 =
        .ok .assigned ∧
      ∃ comment, ∃ login : String, ∃ answer searches replies,
        askingContext.comment = some (.object comment) ∧
          Event.valueAt (.object comment) ["user", "login"] = .text login ∧
          Exchange.pair [.standard, nothingFound]
              (handle askingContext askingStation
                (.start [.standard, nothingFound] [])).2.requests =
            reacted askingStation.service askingContext comment answer :: (searches ++ replies) ∧
          Trail askingStation.service askingContext login .assigned searches replies :=
  ⟨handle_asking, handle_follows_trail ofEvent_asking rfl handle_asking⟩

end Steward.Assignment
