import Mathlib.Control.Monad.Basic
import Steward.Assignment
import Steward.Proofs.Action
import Steward.Proofs.Assignment.Comment
import Steward.Proofs.Search.Failure

/-! Lookups of the gates, for any requester. The courses of the two gates that look issues up follow
the counts: a gate fails where one of its counts does, and what cannot be verified goes to the
maintainers. -/

namespace Steward.Assignment

def said (base : String) (context : Context) (comment : Wording) (answer : Answer) : Exchange :=
  ⟨.comment base context.repository context.number comment, answer⟩

/-- The number that a lookup of blocked issues comes to; one that fails counts none. -/
def blockedOf : Search.Count → Int
  | .verified count => count
  | .unverified _ => 0

/-! ## Values -/

def inquiry (context : Context) (requester : Json) (state : String) (label : Json) :
    Search.Inputs where
  owner := .text context.repository.owner
  repository := .text context.repository.name
  username := requester
  state := .text state
  label

def openInquiry (context : Context) (requester : Json) : Search.Inputs :=
  inquiry context requester Search.openState .null

def blockedInquiry (context : Context) (requester : Json) : Search.Inputs :=
  inquiry context requester Search.openState (.text Label.blocked)

def completedInquiry (context : Context) (requester : Json) (level : SkillLevel) : Search.Inputs :=
  inquiry context requester Search.closedState (.text level.label)

/-! ## Courses -/

section

variable (base : String) (context : Context) (requester : Json)

inductive LimitLookups : Course (Passage Unit)
  | fails {first : List Exchange} {failure : Failure}
      (asked : Search.CountCourse base (openInquiry context requester) first (.error failure)) :
      LimitLookups first (.error failure)
  | unverified {first : List Exchange} {reason : Wording} {posted : Answer}
      (asked : Search.CountCourse base (openInquiry context requester) first
        (.ok (.unverified reason))) :
      LimitLookups
        (first ++
          [said base context (Comment.serviceError requester.display context.settings) posted])
        (.ok (.settled .serviceError))
  | blockedFails {first second : List Exchange} {held : Int} {failure : Failure}
      (asked : Search.CountCourse base (openInquiry context requester) first (.ok (.verified held)))
      (full : maximumOpen ≤ held)
      (askedBlocked :
        Search.CountCourse base (blockedInquiry context requester) second (.error failure)) :
      LimitLookups (first ++ second) (.error failure)
  | exceeded {first second : List Exchange} {held : Int} {blocked : Search.Count} {posted : Answer}
      (asked : Search.CountCourse base (openInquiry context requester) first (.ok (.verified held)))
      (full : maximumOpen ≤ held)
      (askedBlocked :
        Search.CountCourse base (blockedInquiry context requester) second (.ok blocked)) :
      LimitLookups
        (first ++ (second ++ [said base context
          (Comment.limitExceeded requester.display.shown (toString held) context.repository
            (0 < blockedOf blocked)) posted]))
        (.ok (.settled .limitExceeded))
  | within {first : List Exchange} {held : Int}
      (asked : Search.CountCourse base (openInquiry context requester) first (.ok (.verified held)))
      (room : held < maximumOpen) :
      LimitLookups first (.ok (.through ()))

inductive PrerequisiteLookups (level : SkillLevel) : Course (Passage Unit)
  | needless (none_ : level.prerequisite? = none) : PrerequisiteLookups level [] (.ok (.through ()))
  | fails {prerequisite : SkillLevel.Prerequisite} {first : List Exchange} {failure : Failure}
      (asks : level.prerequisite? = some prerequisite)
      (asked : Search.CountCourse base (completedInquiry context requester prerequisite.level) first
        (.error failure)) :
      PrerequisiteLookups level first (.error failure)
  | unverified {prerequisite : SkillLevel.Prerequisite} {first : List Exchange} {reason : Wording}
      {posted : Answer} (asks : level.prerequisite? = some prerequisite)
      (asked : Search.CountCourse base (completedInquiry context requester prerequisite.level) first
        (.ok (.unverified reason))) :
      PrerequisiteLookups level
        (first ++
          [said base context (Comment.serviceError requester.display context.settings) posted])
        (.ok (.settled .serviceError))
  | unmet {prerequisite : SkillLevel.Prerequisite} {first : List Exchange} {completed : Int}
      {comment : String} {posted : Answer} (asks : level.prerequisite? = some prerequisite)
      (asked : Search.CountCourse base (completedInquiry context requester prerequisite.level) first
        (.ok (.verified completed)))
      (few : completed < prerequisite.count)
      (made : Comment.prerequisiteNotMet requester.display.shown level (toString completed)
        context.repository = .ok comment) :
      PrerequisiteLookups level (first ++ [said base context comment posted])
        (.ok (.settled .prerequisitesNotMet))
  | met {prerequisite : SkillLevel.Prerequisite} {first : List Exchange} {completed : Int}
      (asks : level.prerequisite? = some prerequisite)
      (asked : Search.CountCourse base (completedInquiry context requester prerequisite.level) first
        (.ok (.verified completed)))
      (enough : (prerequisite.count : Int) ≤ completed) :
      PrerequisiteLookups level first (.ok (.through ()))

end

variable {station : Station} {context : Context} {requester : Json} {level : SkillLevel}

theorem takes_settleUnverified :
    (settleUnverified context requester).Takes station
      (Course.asks
        (.comment station.service context.repository context.number
          (Comment.serviceError requester.display context.settings))
        fun _ => .ok (.settled .serviceError)) :=
  .askOk (Action.takes_say (Comment.serviceError_spoken _ _)) fun answer =>
    .pure ⟨answer, rfl, rfl⟩

/-- A lookup of blocked issues fails as its count does. -/
theorem takes_countBlocked :
    (countBlocked context requester).Takes station fun exchanges result =>
      ∃ counted, Search.CountCourse station.service (blockedInquiry context requester) exchanges
        counted ∧ result = counted.map blockedOf := by
  apply Job.Takes.bind (Search.takes_count (blockedInquiry context requester))
  · intro exchanges count asked
    cases count <;> exact .pure (by simpa [Course.after] using ⟨_, asked, rfl⟩)
  · intro exchanges failure asked
    exact ⟨_, asked, rfl⟩

theorem takes_limitLookups :
    (checkLimit context requester).Takes station
      (LimitLookups station.service context requester) := by
  apply Job.Takes.bind (Search.takes_count (openInquiry context requester))
  · intro first count asked
    cases count with
    | unverified reason =>
        refine .info (takes_settleUnverified.weaken ?_)
        intro exchanges result settled
        rcases settled with ⟨posted, rfl, rfl⟩
        exact .unverified asked
    | verified held =>
        by_cases full : (maximumOpen : Int) ≤ held
        · simp only [if_pos full]
          refine .info (.bind takes_countBlocked ?_ ?_)
          · intro second number found
            rcases found with ⟨counted, askedBlocked, same⟩
            rcases Except.map_eq_ok_iff.mp same.symm with ⟨blocked, rfl, rfl⟩
            exact .askOk (Action.takes_say (Comment.limitExceeded_spoken _ _ _ _)) fun posted =>
              .pure (.exceeded asked full askedBlocked)
          · intro second failure found
            rcases found with ⟨counted, askedBlocked, same⟩
            rw [Except.map_eq_error_iff.mp same.symm] at askedBlocked
            exact .blockedFails asked full askedBlocked
        · simp only [if_neg full]
          exact .info (.pure (by simpa [Course.after] using .within asked (by omega)))
  · intro first failure asked
    exact .fails asked

theorem takes_prerequisiteLookups :
    (checkPrerequisite context level requester).Takes station
      (PrerequisiteLookups station.service context requester level) := by
  unfold checkPrerequisite
  cases asks : level.prerequisite? with
  | none => exact .pure (.needless asks)
  | some prerequisite =>
      apply Job.Takes.bind
        (Search.takes_count (completedInquiry context requester prerequisite.level))
      · intro first count asked
        cases count with
        | unverified reason =>
            refine .info (takes_settleUnverified.weaken ?_)
            intro exchanges result settled
            rcases settled with ⟨posted, rfl, rfl⟩
            exact .unverified asks asked
        | verified completed =>
            by_cases few : completed < prerequisite.count
            · simp only [if_pos few]
              apply Job.Takes.info
              cases made : Comment.prerequisiteNotMet requester.display.shown level
                (toString completed)
                  context.repository with
              | error failure => simp [Comment.prerequisiteNotMet, asks] at made
              | ok text =>
                  apply Job.Takes.liftOk rfl
                  exact .askOk (Action.takes_say (Comment.prerequisiteNotMet_spoken made))
                    fun posted => .pure (.unmet asks asked few made)
            · simp only [if_neg few]
              exact .info (.pure (by simpa [Course.after] using .met asks asked (by omega)))
      · intro first failure asked
        exact .fails asks asked

/-! ## Failures -/

section

variable {base : String} {exchanges : List Exchange} {result : Except Failure (Passage Unit)}
  {answers : List Answer}

/-- By the answers to its lookups: a gate fails where a lookup does that it makes, and it passes the
request on to the maintainers where the first is not verified. -/
theorem LimitLookups.result_iff (course : LimitLookups base context requester exchanges result)
    (told : exchanges = Exchange.pair answers (exchanges.map Exchange.request)) :
    (∀ failure, result = .error failure ↔
      Search.counted (openInquiry context requester) (Answer.inTurn answers 0) = .error failure ∨
        ∃ held, Search.counted (openInquiry context requester) (Answer.inTurn answers 0) =
          .ok (.verified held) ∧ maximumOpen ≤ held ∧
            Search.counted (blockedInquiry context requester) (Answer.inTurn answers 1) =
              .error failure) ∧
    (result = .ok (.settled .serviceError) ↔
      ∃ reason, Search.counted (openInquiry context requester) (Answer.inTurn answers 0) =
        .ok (.unverified reason)) := by
  cases course with
  | fails asked =>
      rw [← asked.eq_counted told]
      simp
  | unverified asked =>
      rw [← asked.eq_counted (Exchange.pair_parts told).1]
      simp
  | blockedFails asked full askedBlocked =>
      rcases Exchange.pair_parts told with ⟨firstTold, secondTold⟩
      -- A verified count has taken one answer, so the next lookup gets the second.
      rw [asked.length_of_verified rfl] at secondTold
      have blocked := askedBlocked.eq_counted secondTold
      rw [Answer.inTurn_drop] at blocked
      rw [← asked.eq_counted firstTold, ← blocked]
      simp [full]
  | exceeded asked full askedBlocked =>
      rcases Exchange.pair_parts told with ⟨firstTold, restTold⟩
      rw [asked.length_of_verified rfl] at restTold
      have blocked := askedBlocked.eq_counted (Exchange.pair_parts restTold).1
      rw [Answer.inTurn_drop] at blocked
      rw [← asked.eq_counted firstTold, ← blocked]
      simp
  | within asked room =>
      rw [← asked.eq_counted told]
      simp [Int.not_le.mpr room]

theorem PrerequisiteLookups.result_iff
    (course : PrerequisiteLookups base context requester level exchanges result)
    (told : exchanges = Exchange.pair answers (exchanges.map Exchange.request)) :
    (∀ failure, result = .error failure ↔
      ∃ prerequisite, level.prerequisite? = some prerequisite ∧
        Search.counted (completedInquiry context requester prerequisite.level)
          (Answer.inTurn answers 0) = .error failure) ∧
    (result = .ok (.settled .serviceError) ↔
      ∃ prerequisite, level.prerequisite? = some prerequisite ∧
        ∃ reason, Search.counted (completedInquiry context requester prerequisite.level)
          (Answer.inTurn answers 0) = .ok (.unverified reason)) := by
  cases course with
  | needless none_ => simp [none_]
  | fails asks asked =>
      have found := asked.eq_counted told
      simp [asks, ← found]
  | unverified asks asked =>
      have found := asked.eq_counted (Exchange.pair_parts told).1
      simp [asks, ← found]
  | unmet asks asked few made =>
      have found := asked.eq_counted (Exchange.pair_parts told).1
      simp [asks, ← found]
  | met asks asked enough =>
      have found := asked.eq_counted told
      simp [asks, ← found]

/-! ## Maintainers -/

/-- A request that goes to the maintainers for want of a lookup does so after this lookup, by one
comment. -/
theorem LimitLookups.requests_of_serviceError
    (course : LimitLookups base context requester exchanges (.ok (.settled .serviceError)))
    {looked : List Exchange} {found : Except Failure Search.Count}
    (asked : Search.CountCourse base (openInquiry context requester) looked found) :
    exchanges.map Exchange.request = looked.map Exchange.request ++
      [.comment base context.repository context.number
        (Comment.serviceError requester.display context.settings)] := by
  cases course with
  | unverified askedFirst => rw [List.map_append, askedFirst.requests_eq asked]; rfl

theorem PrerequisiteLookups.requests_of_serviceError
    (course : PrerequisiteLookups base context requester level exchanges
      (.ok (.settled .serviceError)))
    {prerequisite : SkillLevel.Prerequisite} (asks : level.prerequisite? = some prerequisite)
    {looked : List Exchange} {found : Except Failure Search.Count}
    (asked : Search.CountCourse base (completedInquiry context requester prerequisite.level) looked
      found) :
    exchanges.map Exchange.request = looked.map Exchange.request ++
      [.comment base context.repository context.number
        (Comment.serviceError requester.display context.settings)] := by
  cases course with
  | unverified asksToo askedFirst =>
      cases asks.symm.trans asksToo
      rw [List.map_append, askedFirst.requests_eq asked]
      rfl

end

/-! ## Runs -/

theorem countBlocked_run (context : Context) (requester : Json) (station : Station)
    (session : Session) :
    (countBlocked context requester station session).1 =
      (Search.count (blockedInquiry context requester) station session).1.map blockedOf := by
  rcases takes_countBlocked session with ⟨exchanges, reached, counted, course, same⟩
  rw [same, Search.count_run, course.eq_counted reached.told]

theorem checkLimit_run (context : Context) (requester : Json) (station : Station)
    (session : Session) :
    let opens := openInquiry context requester
    let first := Answer.inTurn session.answers 0
    let second := Answer.inTurn session.answers 1
    let looked := Search.count opens station session
    let checked := checkLimit context requester station session
    (∀ failure, checked.1 = .error failure ↔
      opens.Fail first failure ∨
        ∃ held, opens.Verify first held ∧ maximumOpen ≤ held ∧
          (blockedInquiry context requester).Fail second failure) ∧
    (checked.1 = .ok (.settled .serviceError) ↔ ∃ reason, looked.1 = .ok (.unverified reason)) ∧
    (checked.1 = .ok (.settled .serviceError) → checked.2.requests = looked.2.requests ++
      [.comment station.service context.repository context.number
        (Comment.serviceError requester.display context.settings)]) := by
  intro opens first second looked checked
  have taken : (checkLimit context requester).Takes station _ := takes_limitLookups
  rcases taken session with ⟨exchanges, reached, course⟩
  rcases course.result_iff reached.told with ⟨fails, refers⟩
  simp only [Search.counted_eq_error_iff, Search.counted_eq_verified_iff] at fails
  refine ⟨fails, ?_, ?_⟩
  · rw [Search.count_run]
    exact refers
  · intro settled
    rcases Search.takes_count opens session with ⟨others, reachedToo, asked⟩
    rw [settled] at course
    rw [reached.requests, reachedToo.requests, course.requests_of_serviceError asked,
      List.append_assoc]

theorem checkPrerequisite_run (context : Context) (requester : Json) (level : SkillLevel)
    (station : Station) (session : Session) :
    let first := Answer.inTurn session.answers 0
    let checked := checkPrerequisite context level requester station session
    (∀ failure, checked.1 = .error failure ↔
      ∃ prerequisite, level.prerequisite? = some prerequisite ∧
        (completedInquiry context requester prerequisite.level).Fail first failure) ∧
    ∀ prerequisite, level.prerequisite? = some prerequisite →
      let looked :=
        Search.count (completedInquiry context requester prerequisite.level) station session
      (checked.1 = .ok (.settled .serviceError) ↔ ∃ reason, looked.1 = .ok (.unverified reason)) ∧
      (checked.1 = .ok (.settled .serviceError) → checked.2.requests = looked.2.requests ++
        [.comment station.service context.repository context.number
          (Comment.serviceError requester.display context.settings)]) := by
  intro first checked
  have taken : (checkPrerequisite context level requester).Takes station _ :=
    takes_prerequisiteLookups
  rcases taken session with ⟨exchanges, reached, course⟩
  rcases course.result_iff reached.told with ⟨fails, refers⟩
  simp only [Search.counted_eq_error_iff] at fails
  refine ⟨fails, ?_⟩
  intro prerequisite asks looked
  refine ⟨?_, ?_⟩
  · simpa [asks, looked, Search.count_run] using refers
  · intro settled
    rcases Search.takes_count (completedInquiry context requester prerequisite.level) session with
      ⟨others, reachedToo, asked⟩
    rw [settled] at course
    rw [reached.requests, reachedToo.requests, course.requests_of_serviceError asks asked,
      List.append_assoc]

/-- Lookups from any values and by any answers, and the gates that make them, for any requester. A
count fails if and only if its values make a search and the answer bars the way to the number; it is
verified if the answer tells the number, and unverified in all other cases. An unverified count of
blocked issues is taken for none. The gates fail exactly with one of their lookups, and turn to the
maintainers, by one comment, exactly if the lookup that they start with is unverified. -/
theorem lookups_fail_iff_misplaced (context : Context) (requester : Json) (level : SkillLevel)
    (station : Station) (session : Session) :
    let first := Answer.inTurn session.answers 0
    let second := Answer.inTurn session.answers 1
    let opens := openInquiry context requester
    let referral := Request.comment station.service context.repository context.number
      (Comment.serviceError requester.display context.settings)
    (∀ inputs : Search.Inputs,
      let counted := (Search.count inputs station session).1
      (∀ failure, counted = .error failure ↔ inputs.Fail first failure) ∧
      (∀ found, counted = .ok (.verified found) ↔ inputs.Verify first found) ∧
      ((∃ reason, counted = .ok (.unverified reason)) ↔
        (¬∃ failure, inputs.Fail first failure) ∧ ¬∃ found, inputs.Verify first found)) ∧
    (countBlocked context requester station session).1 =
      (Search.count (blockedInquiry context requester) station session).1.map blockedOf ∧
    (let looked := Search.count opens station session
     let checked := checkLimit context requester station session
     (∀ failure, checked.1 = .error failure ↔
       opens.Fail first failure ∨
         ∃ held, opens.Verify first held ∧ maximumOpen ≤ held ∧
           (blockedInquiry context requester).Fail second failure) ∧
     (checked.1 = .ok (.settled .serviceError) ↔ ∃ reason, looked.1 = .ok (.unverified reason)) ∧
     (checked.1 = .ok (.settled .serviceError) →
       checked.2.requests = looked.2.requests ++ [referral])) ∧
    (let checked := checkPrerequisite context level requester station session
     (∀ failure, checked.1 = .error failure ↔
       ∃ prerequisite, level.prerequisite? = some prerequisite ∧
         (completedInquiry context requester prerequisite.level).Fail first failure) ∧
     ∀ prerequisite, level.prerequisite? = some prerequisite →
       let looked :=
         Search.count (completedInquiry context requester prerequisite.level) station session
       (checked.1 = .ok (.settled .serviceError) ↔ ∃ reason, looked.1 = .ok (.unverified reason)) ∧
       (checked.1 = .ok (.settled .serviceError) →
         checked.2.requests = looked.2.requests ++ [referral])) := by
  refine ⟨fun inputs => ?_, countBlocked_run context requester station session,
    checkLimit_run context requester station session,
    checkPrerequisite_run context requester level station session⟩
  rw [Search.count_run]
  exact ⟨fun _ => Search.counted_eq_error_iff, fun _ => Search.counted_eq_verified_iff,
    Search.counted_eq_unverified_iff⟩

/-- The service cannot be reached: both gates turn to the maintainers. -/
theorem lookups_fail_iff_misplaced_unreached :
    let context : Context := ⟨⟨"hiero", "sdk"⟩, "issue_comment", 7, none, none, none, .standard⟩
    let station : Station := ⟨"bot", "https://api.github.com", "token", [], "12:00:00"⟩
    let session := Session.start [.refusal "timeout"] []
    (checkLimit context (.text "ada") station session).1 = .ok (.settled .serviceError) ∧
      (checkLimit context (.text "ada") station session).2.requests.getLast? =
        some (.comment station.service context.repository 7
          (Comment.serviceError "ada" context.settings)) ∧
      (checkPrerequisite context .beginner (.text "ada") station session).1 =
        .ok (.settled .serviceError) ∧
      (checkPrerequisite context .beginner (.text "ada") station session).2.requests.getLast? =
        some (.comment station.service context.repository 7
          (Comment.serviceError "ada" context.settings)) := by
  intro context station session
  have unreached (inputs : Search.Inputs) :
      (¬∃ failure, inputs.Fail (.refusal "timeout") failure) ∧
        ¬∃ found, inputs.Verify (.refusal "timeout") found :=
    ⟨fun ⟨_, _, _, misplaces, _⟩ => (nomatch misplaces), fun ⟨_, _, tells⟩ => (nomatch tells)⟩
  rcases lookups_fail_iff_misplaced context (.text "ada") .beginner station session with
    ⟨counts, -, ⟨-, limitRefers, limitAsks⟩, -, prerequisiteRefers⟩
  rcases prerequisiteRefers _ rfl with ⟨prerequisiteRefers, prerequisiteAsks⟩
  have unverified (inputs : Search.Inputs) :
      ∃ reason, (Search.count inputs station session).1 = .ok (.unverified reason) :=
    (counts inputs).2.2.mpr (unreached inputs)
  have limitSettled := limitRefers.mpr (unverified _)
  have prerequisiteSettled := prerequisiteRefers.mpr (unverified _)
  refine ⟨limitSettled, ?_, prerequisiteSettled, ?_⟩
  · rw [limitAsks limitSettled, List.getLast?_concat]
    rfl
  · rw [prerequisiteAsks prerequisiteSettled, List.getLast?_concat]
    rfl

/-- A list in the place of the data makes a count fail, and the gate with it. -/
theorem count_fails_by_list :
    let context : Context := ⟨⟨"hiero", "sdk"⟩, "issue_comment", 7, none, none, none, .standard⟩
    let station : Station := ⟨"bot", "https://api.github.com", "token", [], "12:00:00"⟩
    let session := Session.start [.reply 200 "\x7b\"data\": [1]\x7d"] []
    (Search.count ⟨.text "hiero", .text "sdk", .text "ada", .text "open", .null⟩ station
      session).1 = .error (.lacks .list "get") ∧
    (checkLimit context (.text "ada") station session).1 = .error (.lacks .list "get") := by
  intro context station session
  have counts : (Search.count ⟨.text "hiero", .text "sdk", .text "ada", .text "open", .null⟩ station
      session).1 = .error (.lacks .list "get") := by decide +kernel
  refine ⟨counts, ((checkLimit_run context (.text "ada") station session).1 _).mpr (.inl ?_)⟩
  rw [Search.count_run] at counts
  exact Search.counted_eq_error_iff.mp counts

end Steward.Assignment
