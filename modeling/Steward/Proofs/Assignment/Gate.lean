import Steward.Proofs.Assignment.Lookup
import Steward.Proofs.Context
import Steward.Proofs.Label
import Steward.Proofs.Transition

/-! The gates that a request for assignment goes through. For each gate a course tells the exchanges
that it comes to, the result, and the condition on which this is the result. -/

namespace Steward.Assignment

/-! ## Exchanges -/

section

variable (base : String) (context : Context)

def searchOf (login state : String) (label : Wording) : Search :=
  ⟨context.repository.owner, context.repository.name, login, state, label⟩

def searched (login state : String) (label : Wording) (answer : Answer) : Exchange :=
  ⟨.count base (searchOf context login state label).query, answer⟩

def openSearched (login : String) (answer : Answer) : Exchange :=
  searched base context login Search.openState "" answer

def blockedSearched (login : String) (answer : Answer) : Exchange :=
  searched base context login Search.openState Label.blocked answer

def closedSearched (login : String) (level : SkillLevel) (answer : Answer) : Exchange :=
  searched base context login Search.closedState level.label answer

def assigneeAdded (login : String) (answer : Answer) : Exchange :=
  ⟨.assignees base context.repository context.number [login], answer⟩

def readyRemoved (answer : Answer) : Exchange :=
  ⟨.labelRemoval base context.repository context.number Label.readyForDev, answer⟩

def progressAdded (answer : Answer) : Exchange :=
  ⟨.labelAddition base context.repository context.number [Label.inProgress], answer⟩

end

/-! ## Lookups -/

section

variable {context : Context} {issue comment user : List (Wording × Json)} {login : String}
  {body : Wording}

structure AreWords (context : Context) (login : String) : Prop where
  owner : (Json.text context.repository.owner).isSearchWord = true
  repository : (Json.text context.repository.name).isSearchWord = true
  login : (Json.text login).isSearchWord = true

theorem AreWords.of_commented (commented : context.Commented issue comment user login body) :
    AreWords context login :=
  ⟨commented.owner, commented.repository, commented.author⟩

theorem ofInputs_inquiry (words : AreWords context login) {state : String} {label : Wording}
    {value : Json}
    (isState : ((state : Wording) = Search.openState || (state : Wording) = Search.closedState) =
      true)
    (isLabel : Search.label? value = some label) :
    Search.ofInputs (inquiry context (.text login) state value) =
      .ok (searchOf context login state label) := by
  simp only [inquiry, Search.ofInputs, words.owner, words.repository, words.login, isLabel, isState]
  rfl

theorem ofInputs_openInquiry (words : AreWords context login) :
    Search.ofInputs (openInquiry context (.text login)) =
      .ok (searchOf context login Search.openState "") :=
  ofInputs_inquiry words (by decide) (by decide)

theorem ofInputs_blockedInquiry (words : AreWords context login) :
    Search.ofInputs (blockedInquiry context (.text login)) =
      .ok (searchOf context login Search.openState Label.blocked) :=
  ofInputs_inquiry words (by decide) (by decide)

theorem ofInputs_completedInquiry (words : AreWords context login) (level : SkillLevel) :
    Search.ofInputs (completedInquiry context (.text login) level) =
      .ok (searchOf context login Search.closedState level.label) :=
  ofInputs_inquiry words (by decide) (by cases level <;> decide)

end

/-! ## Gates -/

section

variable (base : String) (context : Context) (issue : List (Wording × Json)) (login : String)

inductive IssueCourse : Course (Passage SkillLevel)
  | badAssignees {failure : Failure}
      (taken : (Json.lookup issue "assignees").isFalsy = false)
      (bad : loginsOf (Json.lookup issue "assignees") = .error failure ∨
        Comment.alreadyAssigned (.text login) (.object issue) context.repository =
          .error failure) :
      IssueCourse [] (.error failure)
  | alreadyAssigned {comment : Wording} {answer : Answer}
      (taken : (Json.lookup issue "assignees").isFalsy = false)
      (made : Comment.alreadyAssigned (.text login) (.object issue) context.repository =
        .ok comment) :
      IssueCourse [said base context comment answer] (.ok (.settled .alreadyAssigned))
  | badLabels {failure : Failure} (free : (Json.lookup issue "assignees").isFalsy = true)
      (bad : Label.names (.object issue) = .error failure) :
      IssueCourse [] (.error failure)
  | notReady {names : List Wording} {answer : Answer}
      (free : (Json.lookup issue "assignees").isFalsy = true)
      (named : Label.names (.object issue) = .ok names)
      (unready : Label.isAmong Label.readyForDev names = false) :
      IssueCourse [said base context (Comment.notReady login context.repository) answer]
        (.ok (.settled .notReady))
  | noSkillLabel {names : List Wording} {answer : Answer}
      (free : (Json.lookup issue "assignees").isFalsy = true)
      (named : Label.names (.object issue) = .ok names)
      (ready : Label.isAmong Label.readyForDev names = true)
      (unlabelled : SkillLevel.ofNames names = none) :
      IssueCourse [said base context (Comment.noSkillLevel login context.settings) answer]
        (.ok (.settled .noSkillLabel))
  | through {names : List Wording} {level : SkillLevel}
      (free : (Json.lookup issue "assignees").isFalsy = true)
      (named : Label.names (.object issue) = .ok names)
      (ready : Label.isAmong Label.readyForDev names = true)
      (labelled : SkillLevel.ofNames names = some level) :
      IssueCourse [] (.ok (.through level))

inductive LimitCourse : Course (Passage Unit)
  | unreadable {answer : Answer} {failure : Failure}
      (read : Search.reading answer = .error failure) :
      LimitCourse [openSearched base context login answer] (.error failure)
  | unverified {answer posted : Answer} {reason : Wording}
      (read : Search.reading answer = .ok (.unverified reason)) :
      LimitCourse [openSearched base context login answer,
        said base context (Comment.serviceError login context.settings) posted]
        (.ok (.settled .serviceError))
  | blockedUnreadable {answer second : Answer} {held : Int} {failure : Failure}
      (read : Search.reading answer = .ok (.verified held)) (full : maximumOpen ≤ held)
      (blockedRead : Search.reading second = .error failure) :
      LimitCourse [openSearched base context login answer,
        blockedSearched base context login second] (.error failure)
  | exceeded {answer second posted : Answer} {held : Int} {blocked : Search.Count}
      (read : Search.reading answer = .ok (.verified held)) (full : maximumOpen ≤ held)
      (blockedRead : Search.reading second = .ok blocked) :
      LimitCourse [openSearched base context login answer,
        blockedSearched base context login second,
        said base context (Comment.limitExceeded login (toString held) context.repository
          (0 < blockedOf blocked)) posted]
        (.ok (.settled .limitExceeded))
  | within {answer : Answer} {held : Int}
      (read : Search.reading answer = .ok (.verified held)) (room : held < maximumOpen) :
      LimitCourse [openSearched base context login answer] (.ok (.through ()))

inductive PrerequisiteCourse (level : SkillLevel) : Course (Passage Unit)
  | needless (none_ : level.prerequisite? = none) : PrerequisiteCourse level [] (.ok (.through ()))
  | unreadable {prerequisite : SkillLevel.Prerequisite} {answer : Answer} {failure : Failure}
      (asks : level.prerequisite? = some prerequisite)
      (read : Search.reading answer = .error failure) :
      PrerequisiteCourse level [closedSearched base context login prerequisite.level answer]
        (.error failure)
  | unverified {prerequisite : SkillLevel.Prerequisite} {answer posted : Answer} {reason : Wording}
      (asks : level.prerequisite? = some prerequisite)
      (read : Search.reading answer = .ok (.unverified reason)) :
      PrerequisiteCourse level [closedSearched base context login prerequisite.level answer,
        said base context (Comment.serviceError login context.settings) posted]
        (.ok (.settled .serviceError))
  | unmet {prerequisite : SkillLevel.Prerequisite} {answer posted : Answer} {completed : Int}
      {comment : String} (asks : level.prerequisite? = some prerequisite)
      (read : Search.reading answer = .ok (.verified completed))
      (few : completed < prerequisite.count)
      (made : Comment.prerequisiteNotMet login level (toString completed) context.repository =
        .ok comment) :
      PrerequisiteCourse level [closedSearched base context login prerequisite.level answer,
        said base context comment posted]
        (.ok (.settled .prerequisitesNotMet))
  | met {prerequisite : SkillLevel.Prerequisite} {answer : Answer} {completed : Int}
      (asks : level.prerequisite? = some prerequisite)
      (read : Search.reading answer = .ok (.verified completed))
      (enough : (prerequisite.count : Int) ≤ completed) :
      PrerequisiteCourse level [closedSearched base context login prerequisite.level answer]
        (.ok (.through ()))

inductive AssignCourse (level : SkillLevel) : Course Decision
  | refused {answer posted : Answer} {failure : Failure}
      (refused : Service.decode answer = .error failure) :
      AssignCourse level [assigneeAdded base context login answer,
        said base context (Comment.assignmentFailure login failure.message context.settings)
          posted]
        (.ok .assignmentFailed)
  | moved {answer removed added welcomed : Answer} {value : Json}
      (accepted : Service.decode answer = .ok value)
      (moved : (Transition.ofAnswers Label.inProgress Label.readyForDev removed added).succeeded =
        true) :
      AssignCourse level [assigneeAdded base context login answer,
        readyRemoved base context removed, progressAdded base context added,
        said base context (Comment.welcome login level context.settings) welcomed]
        (.ok .assigned)
  | unmoved {answer removed added welcomed reported : Answer} {value : Json}
      (accepted : Service.decode answer = .ok value)
      (unmoved : (Transition.ofAnswers Label.inProgress Label.readyForDev removed
        added).succeeded = false) :
      AssignCourse level [assigneeAdded base context login answer,
        readyRemoved base context removed, progressAdded base context added,
        said base context (Comment.welcome login level context.settings) welcomed,
        said base context (Comment.labelFailure login
          (Transition.ofAnswers Label.inProgress Label.readyForDev removed added).error
          context.settings) reported]
        (.ok .assigned)

end

/-! ## Courses of the gates -/

section

variable {station : Station} {context : Context} {issue comment user : List (Wording × Json)}
  {login : String} {body : Wording}

theorem takes_checkIssue (commented : context.Commented issue comment user login body) :
    (checkIssue context (.text login)).Takes station
      (IssueCourse station.service context issue login) := by
  have part : Context.part context.issue = .object issue := by rw [commented.issueIs]; rfl
  unfold checkIssue
  rw [part]
  refine .liftOk rfl ?_
  cases free : (Json.lookup issue "assignees").isFalsy with
  | false =>
      rw [Json.orElse_of_truthy free, if_pos (by simp [free])]
      refine .lift (fun logins found => ?_) fun failure failed => .badAssignees free (.inl failed)
      refine .info (.lift (fun text made => ?_) fun failure failed =>
        .badAssignees free (.inr failed))
      exact .askOk (Action.takes_say (Comment.alreadyAssigned_spoken made)) fun answer =>
        .pure (.alreadyAssigned free made)
  | true =>
      rw [Json.orElse_of_falsy free, if_neg (by decide)]
      rw [Label.has_eq_map]
      cases named : Label.names (.object issue) with
      | error failure =>
          refine .lift nofun fun other failed => ?_
          cases failed
          exact .badLabels free named
      | ok names =>
          refine .liftOk rfl ?_
          cases ready : Label.isAmong Label.readyForDev names with
          | false =>
              exact .info (.askOk (Action.takes_say (Comment.notReady_spoken _ _)) fun answer =>
                .pure (.notReady free named ready))
          | true =>
              refine .liftOk (SkillLevel.ofIssue_eq named) ?_
              cases labelled : SkillLevel.ofNames names with
              | none =>
                  exact .info (.askOk (Action.takes_say (Comment.noSkillLevel_spoken _ _))
                    fun answer => .pure (.noSkillLabel free named ready labelled))
              | some level => exact .info (.pure (.through free named ready labelled))

theorem takes_checkLimit (words : AreWords context login) :
    (checkLimit context (.text login)).Takes station
      (LimitCourse station.service context login) := by
  have opens := ofInputs_openInquiry words
  have blocks := ofInputs_blockedInquiry words
  apply takes_limitLookups.weaken
  intro exchanges result course
  cases course with
  | fails asked =>
      rcases asked.of_made opens with ⟨answer, rfl, read⟩
      exact .unreadable read
  | unverified asked =>
      rcases asked.of_made opens with ⟨answer, rfl, read⟩
      exact .unverified read
  | blockedFails asked full askedBlocked =>
      rcases asked.of_made opens with ⟨answer, rfl, read⟩
      rcases askedBlocked.of_made blocks with ⟨second, rfl, blockedRead⟩
      exact .blockedUnreadable read full blockedRead
  | exceeded asked full askedBlocked =>
      rcases asked.of_made opens with ⟨answer, rfl, read⟩
      rcases askedBlocked.of_made blocks with ⟨second, rfl, blockedRead⟩
      exact .exceeded read full blockedRead
  | within asked room =>
      rcases asked.of_made opens with ⟨answer, rfl, read⟩
      exact .within read room

theorem takes_checkPrerequisite (commented : context.Commented issue comment user login body)
    (level : SkillLevel) :
    (checkPrerequisite context level (.text login)).Takes station
      (PrerequisiteCourse station.service context login level) := by
  have completes := ofInputs_completedInquiry (.of_commented commented)
  apply takes_prerequisiteLookups.weaken
  intro exchanges result course
  cases course with
  | needless none_ => exact .needless none_
  | fails asks asked =>
      rcases asked.of_made (completes _) with ⟨answer, rfl, read⟩
      exact .unreadable asks read
  | unverified asks asked =>
      rcases asked.of_made (completes _) with ⟨answer, rfl, read⟩
      exact .unverified asks read
  | unmet asks asked few made =>
      rcases asked.of_made (completes _) with ⟨answer, rfl, read⟩
      exact .unmet asks read few made
  | met asks asked enough =>
      rcases asked.of_made (completes _) with ⟨answer, rfl, read⟩
      exact .met asks read enough

theorem takes_assign (commented : context.Commented issue comment user login body)
    (level : SkillLevel) :
    (assign context (.text login) level).Takes station
      (AssignCourse station.service context login level) := by
  unfold assign
  refine .info (.askOk (Action.takes_addAssignees commented.spoken commented.author) ?_)
  intro answer
  unfold Outcome.ofAnswer
  cases accepted : Service.decode answer with
  | error failure =>
      exact .askOk (Action.takes_say (Comment.assignmentFailure_spoken _ _ _)) fun posted =>
        .info (.pure (.refused accepted))
  | ok value =>
      apply Job.Takes.bind (Transition.takes_apply (by decide) (by decide))
      · intro exchanges transition applied
        rcases applied with ⟨removed, added, rfl, known⟩
        cases known
        apply Job.Takes.askOk (Action.takes_say (Comment.welcome_spoken _ _ _))
        intro welcomed
        refine .info (.bind (Transition.takes_report (Comment.labelFailure_spoken _ _ _)) ?_ ?_)
        · intro exchanges reportedly course
          rcases course with ⟨-, reported⟩
          split at reported
          · rename_i moved
            subst reported
            exact .info (.pure (.moved accepted moved))
          · rename_i unmoved
            rcases reported with ⟨reported, rfl⟩
            exact .info (.pure (.unmoved accepted (by simpa using unmoved)))
        · intro exchanges failure course
          cases course.1
      · intro exchanges failure applied
        rcases applied with ⟨removed, added, -, failed⟩
        cases failed

end

/-! ## The whole request -/

section

variable (base : String) (context : Context) (issue comment : List (Wording × Json))
  (login : String)

def reacted (answer : Answer) : Exchange :=
  ⟨.reaction base context.repository (Json.lookup comment "id"), answer⟩

/-- A request goes from gate to gate until one settles it or fails. -/
inductive RequestCourse : Course Decision
  | issueFails {answer : Answer} {exchanges : List Exchange} {failure : Failure}
      (fails : IssueCourse base context issue login exchanges (.error failure)) :
      RequestCourse (reacted base context comment answer :: exchanges) (.error failure)
  | issueSettles {answer : Answer} {exchanges : List Exchange} {decision : Decision}
      (settles : IssueCourse base context issue login exchanges (.ok (.settled decision))) :
      RequestCourse (reacted base context comment answer :: exchanges) (.ok decision)
  | limitFails {answer : Answer} {exchanges : List Exchange} {level : SkillLevel}
      {failure : Failure}
      (issueLets : IssueCourse base context issue login [] (.ok (.through level)))
      (fails : LimitCourse base context login exchanges (.error failure)) :
      RequestCourse (reacted base context comment answer :: exchanges) (.error failure)
  | limitSettles {answer : Answer} {exchanges : List Exchange} {level : SkillLevel}
      {decision : Decision}
      (issueLets : IssueCourse base context issue login [] (.ok (.through level)))
      (settles : LimitCourse base context login exchanges (.ok (.settled decision))) :
      RequestCourse (reacted base context comment answer :: exchanges) (.ok decision)
  | prerequisiteFails {answer : Answer} {first second : List Exchange} {level : SkillLevel}
      {failure : Failure}
      (issueLets : IssueCourse base context issue login [] (.ok (.through level)))
      (limitLets : LimitCourse base context login first (.ok (.through ())))
      (fails : PrerequisiteCourse base context login level second (.error failure)) :
      RequestCourse (reacted base context comment answer :: (first ++ second))
        (.error failure)
  | prerequisiteSettles {answer : Answer} {first second : List Exchange} {level : SkillLevel}
      {decision : Decision}
      (issueLets : IssueCourse base context issue login [] (.ok (.through level)))
      (limitLets : LimitCourse base context login first (.ok (.through ())))
      (settles : PrerequisiteCourse base context login level second
        (.ok (.settled decision))) :
      RequestCourse (reacted base context comment answer :: (first ++ second)) (.ok decision)
  | assigns {answer : Answer} {first second third : List Exchange} {level : SkillLevel}
      {result : Except Failure Decision}
      (issueLets : IssueCourse base context issue login [] (.ok (.through level)))
      (limitLets : LimitCourse base context login first (.ok (.through ())))
      (prerequisiteLets : PrerequisiteCourse base context login level second
        (.ok (.through ())))
      (ends : AssignCourse base context login level third result) :
      RequestCourse (reacted base context comment answer :: (first ++ second ++ third)) result

variable {base context issue comment login} in
theorem RequestCourse.reacts {exchanges : List Exchange} {result : Except Failure Decision}
    (course : RequestCourse base context issue comment login exchanges result) :
    ∃ answer rest, exchanges = reacted base context comment answer :: rest := by
  cases course <;> exact ⟨_, _, rfl⟩

end

section

variable {station : Station} {context : Context} {issue comment user : List (Wording × Json)}
  {login : String} {body : Wording}

theorem IssueCourse.through_inv {exchanges : List Exchange} {level : SkillLevel}
    (course : IssueCourse station.service context issue login exchanges (.ok (.through level))) :
    exchanges = [] := by
  cases course
  rfl

theorem takes_decide (commented : context.Commented issue comment user login body)
    (answer : Answer) :
    (decide context (.text login)).Takes station
      (Course.after (RequestCourse station.service context issue comment login)
        [reacted station.service context comment answer]) := by
  unfold decide
  refine .bind (takes_checkIssue commented) ?_ fun _ _ fails => .issueFails fails
  intro exchanges passage issueCourse
  cases passage with
  | settled decision =>
      exact .pure (by simpa [Course.after] using RequestCourse.issueSettles issueCourse)
  | through level =>
      have unasked := issueCourse.through_inv
      subst unasked
      refine .bind (takes_checkLimit (.of_commented commented)) ?_ fun _ _ fails =>
        .limitFails issueCourse fails
      intro first passage limitCourse
      cases passage with
      | settled decision =>
          exact .pure (by simpa [Course.after] using
            RequestCourse.limitSettles issueCourse limitCourse)
      | through =>
          apply Job.Takes.bind (takes_checkPrerequisite commented level)
          · intro second passage prerequisiteCourse
            cases passage with
            | settled decision =>
                exact .pure (by simpa [Course.after] using
                  RequestCourse.prerequisiteSettles issueCourse limitCourse prerequisiteCourse)
            | through =>
                apply (takes_assign commented level).weaken
                intro third result ends
                simpa [Course.after] using
                  RequestCourse.assigns issueCourse limitCourse prerequisiteCourse ends
          · intro second failure fails
            simpa [Course.after] using
              RequestCourse.prerequisiteFails issueCourse limitCourse fails

theorem takes_handle (commented : context.Commented issue comment user login body) :
    (handle context).Takes station (RequestCourse station.service context issue comment login) := by
  have part : Context.part context.comment = .object comment := by rw [commented.commentIs]; rfl
  unfold handle
  rw [part]
  refine .liftOk (Json.member_eq_ok commented.userIs nofun) ?_
  refine .liftOk (Json.member_eq_ok commented.loginIs nofun) ?_
  refine .liftOk rfl ?_
  exact .askOk (Action.takes_addReaction _) fun answer => takes_decide commented answer

end

end Steward.Assignment
