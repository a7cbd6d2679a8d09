import Steward.Proofs.Assignment.Gate

/-! Who gets an issue: the conditions under which a request passes all gates. A request by somebody
who is entitled goes through its searches to the assignment, and nothing else leads there. -/

namespace Steward.Assignment

/-- The issue is free, ready and of a level; the first search finds room for one more issue, and the
second, if the level calls for it, enough completed ones. Answers count from the reaction on. -/
structure Entitled (issue : Json) (answers : List Answer) (level : SkillLevel) : Prop where
  free : (Event.valueAt issue ["assignees"]).isFalsy = true
  labelled : ∃ names, Label.names issue = .ok names ∧
    Label.isAmong Label.readyForDev names = true ∧ SkillLevel.ofNames names = some level
  room : ∃ held, (Answer.inTurn answers 1).Tells held ∧ held < maximumOpen
  prepared : ∀ prerequisite, level.prerequisite? = some prerequisite →
    ∃ completed, (Answer.inTurn answers 2).Tells completed ∧
      (prerequisite.count : Int) ≤ completed

section

variable (base : String) (context : Context) (login : String)

/-- The searches before an assignment: that for the open issues, and exactly for a level with a
prerequisite that for the completed ones. -/
inductive Cleared (level : SkillLevel) : List Exchange → Prop
  | needless {first : Answer} {held : Int} (none_ : level.prerequisite? = none)
      (told : first.Tells held) (room : held < maximumOpen) :
      Cleared level [openSearched base context login first]
  | met {prerequisite : SkillLevel.Prerequisite} {first second : Answer} {held completed : Int}
      (asks : level.prerequisite? = some prerequisite)
      (told : first.Tells held) (room : held < maximumOpen)
      (toldCompleted : second.Tells completed) (enough : (prerequisite.count : Int) ≤ completed) :
      Cleared level [openSearched base context login first,
        closedSearched base context login prerequisite.level second]

end

section

variable {base : String} {context : Context} {issue comment : List (Wording × Json)}
  {login : String} {exchanges : List Exchange} {level : SkillLevel}

/-! ## Single gates -/

theorem IssueCourse.eq_through {result : Except Failure (Passage SkillLevel)}
    {answers : List Answer}
    (course : IssueCourse base context issue login exchanges result)
    (entitled : Entitled (.object issue) answers level) :
    result = .ok (.through level) := by
  rcases entitled.labelled with ⟨names, namesAre, isReady, isLevel⟩
  have isFree : (Json.lookup issue "assignees").isFalsy = true := entitled.free
  cases course with
  | badAssignees taken bad => simp [taken] at isFree
  | alreadyAssigned taken made => simp [taken] at isFree
  | badLabels free bad => simp [bad] at namesAre
  | notReady free named unready =>
      cases named.symm.trans namesAre
      simp [unready] at isReady
  | noSkillLabel free named ready unlabelled =>
      cases named.symm.trans namesAre
      simp [unlabelled] at isLevel
  | through free named ready levelled =>
      cases named.symm.trans namesAre
      cases levelled.symm.trans isLevel
      rfl

theorem LimitCourse.eq_through {result : Except Failure (Passage Unit)} {held : Int}
    (course : LimitCourse base context login exchanges result)
    (known : ∀ exchange, exchanges[0]? = some exchange →
      Search.reading exchange.answer = .ok (.verified held))
    (room : held < maximumOpen) :
    result = .ok (.through ()) := by
  cases course with
  | unreadable read => cases read.symm.trans (known _ rfl)
  | unverified read => cases read.symm.trans (known _ rfl)
  | blockedUnreadable read full =>
      cases read.symm.trans (known _ rfl)
      omega
  | exceeded read full =>
      cases read.symm.trans (known _ rfl)
      omega
  | within => rfl

theorem PrerequisiteCourse.eq_through {result : Except Failure (Passage Unit)}
    (course : PrerequisiteCourse base context login level exchanges result)
    (known : ∀ prerequisite exchange, level.prerequisite? = some prerequisite →
      exchanges[0]? = some exchange →
        ∃ completed, Search.reading exchange.answer = .ok (.verified completed) ∧
          (prerequisite.count : Int) ≤ completed) :
    result = .ok (.through ()) := by
  cases course with
  | needless => rfl
  | unreadable asks read =>
      rcases known _ _ asks rfl with ⟨completed, counted, -⟩
      cases read.symm.trans counted
  | unverified asks read =>
      rcases known _ _ asks rfl with ⟨completed, counted, -⟩
      cases read.symm.trans counted
  | unmet asks read few =>
      rcases known _ _ asks rfl with ⟨completed, counted, enough⟩
      cases read.symm.trans counted
      omega
  | met => rfl

/-- The two gates of searches are passed with the searches that clear a request. -/
theorem LimitCourse.cleared {first second : List Exchange}
    (limitLets : LimitCourse base context login first (.ok (.through ())))
    (prerequisiteLets : PrerequisiteCourse base context login level second
      (.ok (.through ()))) :
    Cleared base context login level (first ++ second) := by
  cases limitLets with
  | within read room =>
      have told := Search.reading_eq_verified_iff.mp read
      cases prerequisiteLets with
      | needless none_ => exact .needless none_ told room
      | met asks readCompleted enough =>
          exact .met asks told room (Search.reading_eq_verified_iff.mp readCompleted) enough

/-! ## All gates -/

/-- Somebody who is entitled is held up by no gate. -/
theorem RequestCourse.assigns_of_entitled {answers : List Answer} {requests : List Request}
    {result : Except Failure Decision}
    (course : RequestCourse base context issue comment login exchanges result)
    (told : exchanges = Exchange.pair answers requests)
    (entitled : Entitled (.object issue) answers level) :
    ∃ answer searches changes,
      exchanges = reacted base context comment answer :: (searches ++ changes) ∧
        Cleared base context login level searches ∧
        AssignCourse base context login level changes result := by
  have known : ∀ turn exchange count, exchanges[turn]? = some exchange →
      (Answer.inTurn answers turn).Tells count →
        Search.reading exchange.answer = .ok (.verified count) := by
    intro turn exchange count found tells
    rw [Exchange.answer_of_pair (told ▸ found)]
    exact Search.reading_eq_verified_iff.mpr tells
  rcases entitled.room with ⟨held, heldTold, room⟩
  -- The first search comes after the reaction, the second after the first.
  have limit {answer : Answer} {first : List Exchange}
      {passage : Except Failure (Passage Unit)}
      (limitCourse : LimitCourse base context login first passage)
      (split : exchanges = reacted base context comment answer :: first) :
      passage = .ok (.through ()) :=
    limitCourse.eq_through (fun exchange found => known 1 exchange held (by grind) heldTold) room
  have prerequisite {answer : Answer} {first second : List Exchange}
      {passage : Except Failure (Passage Unit)}
      (limitCourse : LimitCourse base context login first (.ok (.through ())))
      (prerequisiteCourse : PrerequisiteCourse base context login level second passage)
      (split : exchanges = reacted base context comment answer :: (first ++ second)) :
      passage = .ok (.through ()) := by
    refine prerequisiteCourse.eq_through fun prerequisite exchange asks found => ?_
    rcases entitled.prepared prerequisite asks with ⟨completed, completedTold, enough⟩
    refine ⟨completed, known 2 exchange completed ?_ completedTold, enough⟩
    cases limitCourse
    grind
  cases course with
  | issueFails fails => cases fails.eq_through entitled
  | issueSettles settles => cases settles.eq_through entitled
  | limitFails issueLets fails => cases limit fails rfl
  | limitSettles issueLets settles => cases limit settles rfl
  | prerequisiteFails issueLets limitLets fails =>
      cases issueLets.eq_through entitled
      cases prerequisite limitLets fails rfl
  | prerequisiteSettles issueLets limitLets settles =>
      cases issueLets.eq_through entitled
      cases prerequisite limitLets settles rfl
  | assigns issueLets limitLets prerequisiteLets ends =>
      cases issueLets.eq_through entitled
      exact ⟨_, _, _, rfl, limitLets.cleared prerequisiteLets, ends⟩

/-- What a request has gone through on its way to an assignment makes its author entitled. -/
theorem Cleared.entitled {answers : List Answer} {requests : List Request} {answer : Answer}
    {searches changes : List Exchange}
    (cleared : Cleared base context login level searches)
    (issueLets : IssueCourse base context issue login [] (.ok (.through level)))
    (told : reacted base context comment answer :: (searches ++ changes) =
      Exchange.pair answers requests) :
    Entitled (.object issue) answers level := by
  have inTurn : ∀ turn exchange,
      (reacted base context comment answer :: (searches ++ changes))[turn]? = some exchange →
        exchange.answer = Answer.inTurn answers turn := fun turn exchange found =>
    Exchange.answer_of_pair (told ▸ found)
  cases issueLets with
  | through free named ready levelled =>
      refine ⟨free, ⟨_, named, ready, levelled⟩, ?_, fun prerequisite asks => ?_⟩
      · cases cleared with
        | needless _ toldHeld room => exact ⟨_, inTurn 1 _ rfl ▸ toldHeld, room⟩
        | met _ toldHeld room => exact ⟨_, inTurn 1 _ rfl ▸ toldHeld, room⟩
      · cases cleared with
        | needless none_ => simp [none_] at asks
        | met other _ _ toldCompleted enough =>
            cases other.symm.trans asks
            exact ⟨_, inTurn 2 _ rfl ▸ toldCompleted, enough⟩

/-! ## Requests that change nothing -/

theorem IssueCourse.idle {result : Except Failure (Passage SkillLevel)}
    (course : IssueCourse base context issue login exchanges result) :
    ∀ exchange ∈ exchanges, exchange.request.Idle base := by
  cases course <;> simp [said, Request.Idle.comment]

theorem LimitCourse.idle {result : Except Failure (Passage Unit)}
    (course : LimitCourse base context login exchanges result) :
    ∀ exchange ∈ exchanges, exchange.request.Idle base := by
  cases course <;>
    simp [said, openSearched, blockedSearched, searched, Request.Idle.comment, Request.Idle.count]

theorem PrerequisiteCourse.idle {result : Except Failure (Passage Unit)}
    (course : PrerequisiteCourse base context login level exchanges result) :
    ∀ exchange ∈ exchanges, exchange.request.Idle base := by
  cases course <;>
    simp [said, closedSearched, searched, Request.Idle.comment, Request.Idle.count]

theorem Cleared.idle (cleared : Cleared base context login level exchanges) :
    ∀ exchange ∈ exchanges, exchange.request.Idle base := by
  cases cleared <;> simp [openSearched, closedSearched, searched, Request.Idle.count]

/-- A request changes nothing unless it goes through all gates. -/
theorem RequestCourse.idle_or_assigns {result : Except Failure Decision}
    (course : RequestCourse base context issue comment login exchanges result) :
    (∀ exchange ∈ exchanges, exchange.request.Idle base) ∨
      ∃ level answer searches changes,
        exchanges = reacted base context comment answer :: (searches ++ changes) ∧
          IssueCourse base context issue login [] (.ok (.through level)) ∧
          Cleared base context login level searches ∧
          AssignCourse base context login level changes result := by
  have begins {answer : Answer} {rest : List Exchange}
      (idle : ∀ exchange ∈ rest, exchange.request.Idle base) :
      ∀ exchange ∈ reacted base context comment answer :: rest,
        exchange.request.Idle base :=
    List.forall_mem_cons.mpr ⟨.reaction _ _, idle⟩
  cases course with
  | issueFails fails => exact .inl (begins fails.idle)
  | issueSettles settles => exact .inl (begins settles.idle)
  | limitFails _ fails => exact .inl (begins fails.idle)
  | limitSettles _ settles => exact .inl (begins settles.idle)
  | prerequisiteFails _ limitLets fails =>
      exact .inl (begins (List.forall_mem_append.mpr ⟨limitLets.idle, fails.idle⟩))
  | prerequisiteSettles _ limitLets settles =>
      exact .inl (begins (List.forall_mem_append.mpr ⟨limitLets.idle, settles.idle⟩))
  | assigns issueLets limitLets prerequisiteLets ends =>
      exact .inr ⟨_, _, _, _, rfl, issueLets, limitLets.cleared prerequisiteLets, ends⟩

end

/-! ## Runs -/

def assigningTurn (level : SkillLevel) : Nat := 2 + level.prerequisite?.toList.length

/-- A request of somebody who is entitled is granted, if the service takes the assignment. -/
theorem handle_eq_assigned {event : Event} {settings : Settings} {context : Context}
    {station : Station} {answers : List Answer} {files : Files} {level : SkillLevel} {value : Json}
    (accepted : Context.ofEvent true (some event) settings = .ok context)
    (isComment : context.event = Context.commentEvent)
    (entitled : Entitled (Event.valueAt event.payload ["issue"]) answers level)
    (taken : Service.decode (Answer.inTurn answers (assigningTurn level)) = .ok value) :
    (handle context station (.start answers files)).1 = .ok .assigned := by
  rcases Context.ofEvent_commented accepted isComment with
    ⟨_, issue, comment, user, login, body, same, issueIs, -, -, -, commented⟩
  cases same
  rw [issueIs] at entitled
  have takes : (handle context).Takes station _ := takes_handle commented
  rcases takes (.start answers files) with ⟨exchanges, reached, course⟩
  have told := reached.eq_pair
  rcases course.assigns_of_entitled told entitled with
    ⟨answer, searches, changes, split, cleared, ends⟩
  have turn : ∀ exchange, changes[0]? = some exchange →
      exchange.answer = Answer.inTurn answers (assigningTurn level) := by
    intro exchange found
    have place : exchanges[assigningTurn level]? = some exchange := by
      rw [split]
      cases cleared with
      | needless none_ => simpa [assigningTurn, none_] using found
      | met asks => simpa [assigningTurn, asks] using found
    exact Exchange.answer_of_pair (told ▸ place)
  generalize (handle context station (.start answers files)).1 = result at ends ⊢
  cases ends with
  | refused refused =>
      rw [← turn _ rfl] at taken
      cases taken.symm.trans refused
  | moved => rfl
  | unmoved => rfl

/-! ## Somebody who asks -/

def askingStation : Station where
  bot := "on-comment"
  service := "https://api.github.com"
  token := "token"
  environment := []
  now := "12:00:00"

def askedLabels : List String := [Label.readyForDev, SkillLevel.goodFirstIssue.label]

def askedIssue : Json :=
  .object [("number", .integer 7),
    ("labels", .list (askedLabels.map fun name : String => .object [("name", .text name)])),
    ("assignees", .list [])]

def askingComment : Json :=
  .object [("id", .integer 11), ("user", .object [("login", .text "ada")]),
    ("body", .text "/assign")]

def asking : Event where
  name := .text Context.commentEvent
  repository := .object [("owner", .text "hiero"), ("repo", .text "sdk")]
  payload := .object [("issue", askedIssue), ("comment", askingComment)]

def askingContext : Context where
  repository := ⟨"hiero", "sdk"⟩
  event := Context.commentEvent
  number := 7
  issue := some askedIssue
  pull := none
  comment := some askingComment
  settings := .standard

theorem ofEvent_asking : Context.ofEvent true (some asking) .standard = .ok askingContext := rfl

def nothingFound : Answer :=
  .reply 200 "\x7b\"data\":\x7b\"search\":\x7b\"issueCount\":0\x7d\x7d\x7d"

theorem tells_nothingFound : nothingFound.Tells 0 :=
  Search.reading_eq_verified_iff.mp (Except.toOption_eq_some_iff.mp (by decide +kernel))

theorem entitled_asking : Entitled askedIssue [.standard, nothingFound] .goodFirstIssue where
  free := rfl
  labelled := ⟨_, rfl, by decide +kernel, by decide +kernel⟩
  room := ⟨0, tells_nothingFound, by decide⟩
  prepared := nofun

theorem handle_asking :
    (handle askingContext askingStation (.start [.standard, nothingFound] [])).1 =
      .ok .assigned := by
  have carries : (Service.decode .standard).toOption.isSome = true := by decide +kernel
  rcases Option.isSome_iff_exists.mp carries with ⟨value, found⟩
  exact handle_eq_assigned ofEvent_asking rfl entitled_asking (Except.toOption_eq_some_iff.mp found)

end Steward.Assignment
