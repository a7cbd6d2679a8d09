import Steward.Proofs.Bot.Comment
import Steward.Proofs.Bot.Commit
import Steward.Proofs.Bot.Permission
import Steward.Proofs.Bot.Review
import Steward.Proofs.Bot.Signing.Consistency
import Steward.Proofs.Context.Shape

/-! Bots confined to their events. Without a context nothing is requested; with one, a bot makes no
request but those permitted to it for the issue or pull request of the context. -/

namespace Steward

/-! ## Requests for assignment -/

namespace Assignment

open Steward.Bot (Permitted IsLogin Sought)

theorem query_eq {search : Search} {labels : String}
    (only : search.labelClauses = [(labels : Wording)]) :
    search.query =
      Bot.searchText ⟨search.owner, search.repository⟩ search.state search.username labels := by
  rw [Search.query_of_clause only]
  refine congrArg (Wording.mk · []) ?_
  simp [← String.toList_inj, Bot.searchText, toString]

section

variable {base : String} {context : Context} {payload : Json}
  {issue comment : List (Wording × Json)} {login : String} {level : SkillLevel}
  {exchanges : List Exchange} {answer : Answer}

theorem permitted_said {bot : Bot} {text : Wording} :
    Permitted base context.repository context.number payload bot
      (said base context text answer).request :=
  .ofComment

theorem permitted_searched {state labels : String} {label : Wording}
    (author : IsLogin payload ["comment", "user", "login"] login) (sought : Sought state labels)
    (only : (searchOf context login state label).labelClauses = [(labels : Wording)]) :
    Permitted base context.repository context.number payload .comment
      (searched base context login state label answer).request := by
  rw [searched, Request.count_eq, query_eq only]
  exact .search author sought

theorem permitted_openSearched (author : IsLogin payload ["comment", "user", "login"] login) :
    Permitted base context.repository context.number payload .comment
      (openSearched base context login answer).request :=
  permitted_searched author .held rfl

theorem permitted_blockedSearched (author : IsLogin payload ["comment", "user", "login"] login) :
    Permitted base context.repository context.number payload .comment
      (blockedSearched base context login answer).request :=
  permitted_searched author .blocked rfl

theorem permitted_closedSearched (author : IsLogin payload ["comment", "user", "login"] login) :
    Permitted base context.repository context.number payload .comment
      (closedSearched base context login level answer).request := by
  refine permitted_searched author (.completed level) ?_
  cases level <;> rfl

theorem permitted_assigneeAdded (author : IsLogin payload ["comment", "user", "login"] login) :
    Permitted base context.repository context.number payload .comment
      (assigneeAdded base context login answer).request := by
  rw [assigneeAdded, Request.assignees_eq]
  exact .assignee author

theorem permitted_readyRemoved :
    Permitted base context.repository context.number payload .comment
      (readyRemoved base context answer).request := by
  rw [readyRemoved, Request.readyRemoval_eq]
  exact .notReady

theorem permitted_progressAdded :
    Permitted base context.repository context.number payload .comment
      (progressAdded base context answer).request := by
  rw [progressAdded, Request.labelAddition_eq]
  exact .inProgress

theorem permitted_reacted
    (commentIs : Event.valueAt payload ["comment", "id"] = Json.lookup comment "id") :
    Permitted base context.repository context.number payload .comment
      (reacted base context comment answer).request := by
  rw [reacted, Request.reaction_eq]
  exact .reaction commentIs

theorem IssueCourse.permitted {result : Except Failure (Passage SkillLevel)}
    (course : IssueCourse base context issue login exchanges result) :
    ∀ exchange ∈ exchanges,
      Permitted base context.repository context.number payload .comment exchange.request := by
  cases course <;> simp [permitted_said]

theorem LimitCourse.permitted {result : Except Failure (Passage Unit)}
    (author : IsLogin payload ["comment", "user", "login"] login)
    (course : LimitCourse base context login exchanges result) :
    ∀ exchange ∈ exchanges,
      Permitted base context.repository context.number payload .comment exchange.request := by
  cases course <;>
    simp [permitted_said, permitted_openSearched author, permitted_blockedSearched author]

theorem PrerequisiteCourse.permitted {result : Except Failure (Passage Unit)}
    (author : IsLogin payload ["comment", "user", "login"] login)
    (course : PrerequisiteCourse base context login level exchanges result) :
    ∀ exchange ∈ exchanges,
      Permitted base context.repository context.number payload .comment exchange.request := by
  cases course <;> simp [permitted_said, permitted_closedSearched author]

theorem AssignCourse.permitted {result : Except Failure Decision}
    (author : IsLogin payload ["comment", "user", "login"] login)
    (course : AssignCourse base context login level exchanges result) :
    ∀ exchange ∈ exchanges,
      Permitted base context.repository context.number payload .comment exchange.request := by
  cases course <;>
    simp [permitted_said, permitted_assigneeAdded author, permitted_readyRemoved,
      permitted_progressAdded]

theorem RequestCourse.permitted {result : Except Failure Decision}
    (author : IsLogin payload ["comment", "user", "login"] login)
    (commentIs : Event.valueAt payload ["comment", "id"] = Json.lookup comment "id")
    (course : RequestCourse base context issue comment login exchanges result) :
    ∀ exchange ∈ exchanges,
      Permitted base context.repository context.number payload .comment exchange.request := by
  cases course with
  | issueFails course | issueSettles course =>
      exact List.forall_mem_cons.mpr ⟨permitted_reacted commentIs, course.permitted⟩
  | limitFails _ course | limitSettles _ course =>
      exact List.forall_mem_cons.mpr ⟨permitted_reacted commentIs, course.permitted author⟩
  | prerequisiteFails _ limitLets course | prerequisiteSettles _ limitLets course =>
      exact List.forall_mem_cons.mpr ⟨permitted_reacted commentIs,
        List.forall_mem_append.mpr ⟨limitLets.permitted author, course.permitted author⟩⟩
  | assigns _ limitLets prerequisiteLets ends =>
      exact List.forall_mem_cons.mpr ⟨permitted_reacted commentIs,
        List.forall_mem_append.mpr ⟨List.forall_mem_append.mpr
          ⟨limitLets.permitted author, prerequisiteLets.permitted author⟩, ends.permitted author⟩⟩

end

end Assignment

namespace Bot

/-! ## Comments -/

namespace Comment

variable {station : Station} {event : Event} {settings : Settings} {context : Context}

theorem confined (accepted : Context.ofEvent true (some event) settings = .ok context) :
    (Command.dispatch context).Takes station (Course.within
      (Permitted station.service context.repository context.number event.payload .comment)) := by
  by_cases isComment : context.event = Context.commentEvent
  · rcases Context.ofEvent_commented accepted isComment with
      ⟨_, issue, comment, user, login, body, same, -, commentIs, -, -, commented⟩
    cases same
    have author : IsLogin event.payload ["comment", "user", "login"] login :=
      .ofUser commentIs commented.userIs commented.loginIs commented.author
    have idIs : Event.valueAt event.payload ["comment", "id"] = Json.lookup comment "id" := by
      rw [Event.valueAt_cons, commentIs, Event.valueAt_object]
    apply (Command.takes_dispatch commented).weaken
    intro exchanges result course
    cases course with
    | ignored => exact Course.within_nil
    | handled asks course => exact course.permitted author idIs
  · apply (takes_dispatch_other (Context.ofEvent_comment_eq_none accepted isComment)).weaken
    intro exchanges result nothing
    rw [nothing]
    exact Course.within_nil

end Comment

/-! ## Commits -/

theorem permitted_pages {base : String} {repository : Repository} {number page : Int}
    {payload : Json} {bot : Bot} {pages : List Exchange} {result : Except Failure (List Json)}
    (reads : bot = .commit ∨ bot = .signing)
    (course : Commit.PageCourse base repository number Commit.standardPerPage page pages result) :
    ∀ exchange ∈ pages, Permitted base repository number payload bot exchange.request := by
  intro exchange member
  rcases course.asks exchange member with ⟨page, answer, rfl⟩
  rw [Commit.paged, Request.commits_eq]
  exact .commits reads page

namespace Commit

open Steward.Commit

variable {base : String} {station : Station} {context : Context} {payload : Json}
  {exchanges : List Exchange}

theorem permitted_polls {left : Nat} {result : Except Failure Bool}
    (course : Conflict.PollCourse base context.repository context.number left exchanges result) :
    ∀ exchange ∈ exchanges,
      Permitted base context.repository context.number payload .commit exchange.request := by
  intro exchange member
  rcases course.asks exchange member with ⟨answer, rfl⟩
  rw [Conflict.polled, Request.pull_eq]
  exact .pull

theorem Complaints.permitted {check : Check} {conclusion : Conclusion}
    (complaints : Complaints base context check conclusion exchanges) :
    ∀ exchange ∈ exchanges,
      Permitted base context.repository context.number payload .commit exchange.request := by
  cases complaints with
  | none => exact nofun
  | one => exact List.forall_mem_singleton.mpr .ofComment

theorem CheckCourse.permitted {result : Except Failure Verdicts}
    (course : CheckCourse base context exchanges result) :
    ∀ exchange ∈ exchanges,
      Permitted base context.repository context.number payload .commit exchange.request := by
  cases course with
  | unfetched course => exact permitted_pages (.inl rfl) course
  | unreadable fetched => exact permitted_pages (.inl rfl) fetched
  | unverifiable fetched signoffs =>
      exact List.forall_mem_append.mpr
        ⟨permitted_pages (.inl rfl) fetched, signoffs.permitted⟩
  | unpolled fetched signoffs signatures course =>
      simp only [List.forall_mem_append]
      exact ⟨⟨⟨permitted_pages (.inl rfl) fetched, signoffs.permitted⟩,
        signatures.permitted⟩, permitted_polls course⟩
  | checked checked =>
      rcases checked.polled with ⟨conflicts, course⟩
      simp only [List.forall_mem_append]
      exact ⟨⟨⟨⟨permitted_pages (.inl rfl) checked.fetched,
        (checked.complains .signoff).permitted⟩, (checked.complains .signature).permitted⟩,
        permitted_polls course⟩, (checked.complains .conflict).permitted⟩

theorem confined :
    (check context).Takes station (Course.within
      (Permitted station.service context.repository context.number payload .commit)) :=
  takes_check.weaken fun _ _ course => course.permitted

end Commit

/-! ## Signing -/

namespace Signing

open Steward.Commit

variable {base now : String} {station : Station} {event : Event} {settings : Settings}
  {context : Context} {payload head : Json} {commits : List Json} {exchanges : List Exchange}
  {result : Except Failure Bool}

theorem Aftermath.permitted {conclusion : Conclusion} {answer : Answer}
    (aftermath : Aftermath base context conclusion answer exchanges result) :
    ∀ exchange ∈ exchanges,
      Permitted base context.repository context.number payload .signing exchange.request := by
  cases aftermath with
  | refused | passed => exact nofun
  | complained => exact List.forall_mem_singleton.mpr .ofComment

theorem JudgeCourse.permitted
    (headIs : head = Event.valueAt payload ["pull_request", "head", "sha"])
    (course : JudgeCourse base now context head commits exchanges result) :
    ∀ exchange ∈ exchanges,
      Permitted base context.repository context.number payload .signing exchange.request := by
  cases course with
  | unreadable => exact nofun
  | reported _ aftermath =>
      refine List.forall_mem_cons.mpr ⟨?_, aftermath.permitted⟩
      rw [Signing.checked, Request.checkRun_eq]
      exact .checkRun rfl headIs

theorem HeadCourse.permitted
    (headIs : head = Event.valueAt payload ["pull_request", "head", "sha"])
    (course : HeadCourse base now context head exchanges result) :
    ∀ exchange ∈ exchanges,
      Permitted base context.repository context.number payload .signing exchange.request := by
  cases course with
  | unfetched course | empty course => exact permitted_pages (.inr rfl) course
  | judged course some_ judged =>
      exact List.forall_mem_append.mpr
        ⟨permitted_pages (.inr rfl) course, judged.permitted headIs⟩

theorem confined (accepted : Context.ofEvent true (some event) settings = .ok context) :
    (verify context).Takes station (Course.within
      (Permitted station.service context.repository context.number event.payload .signing)) := by
  have pullIs : context.pull = none ∨ ∃ members, context.pull = some (.object members) := by
    rcases Context.ofEvent_pull accepted with none_ | ⟨pull, -, pulled⟩
    · exact .inl none_
    · exact .inr ⟨pull, pulled.pullIs⟩
  apply (takes_verify pullIs).weaken
  intro exchanges result course
  cases course with
  | headless | strange => exact Course.within_nil
  | headed headIs there course =>
      have same := Context.payloadValue_pull accepted (pull_ne_none headIs) ["head", "sha"]
      exact course.permitted same.symm

end Signing

/-! ## Reviews -/

namespace Review

variable {station : Station} {event : Event} {settings : Settings} {context : Context}

theorem confined_assignAuthor
    (accepted : Context.ofEvent true (some event) settings = .ok context) :
    (assignAuthor context).Takes station (Course.within
      (Permitted station.service context.repository context.number event.payload .review)) := by
  rcases Context.ofEvent_pull accepted with none_ | ⟨pull, pullIs, pulled⟩
  · rw [assignAuthor_none none_]
    exact .info (.pure Course.within_nil)
  · rcases pulled.author with absent | ⟨user, login, userIs, loginIs, spoken, word⟩
    · rw [assignAuthor_absent pulled absent]
      exact .info (.pure Course.within_nil)
    · rw [assignAuthor_present pulled userIs loginIs spoken word, assignNamed, pulled.part_eq]
      refine .info (.liftOk rfl ?_)
      -- The assignees may be of any shape: a walk over them fails before anything is asked.
      refine .lift (fun items _ => ?_) fun _ _ => Course.within_nil
      refine .lift (fun found _ => ?_) fun _ _ => Course.within_nil
      cases found with
      | true => exact .info (.pure Course.within_nil)
      | false =>
          have allowed : Permitted station.service context.repository context.number event.payload
              .review (.assignees station.service context.repository context.number [login]) := by
            rw [Request.assignees_eq]
            exact .author (.ofUser pullIs userIs loginIs word)
          exact .bindWithin ((Action.takes_addAssignees spoken word).weaken fun _ _ asked =>
            Course.within_asks allowed asked) fun _ => .pure Course.within_nil

theorem LabelCourse.permitted {base label : String} {comment : Wording → Wording} {payload : Json}
    {exchanges : List Exchange} (one : label = Label.needsReview ∨ label = Label.needsRevision)
    (course : LabelCourse base context label comment exchanges) :
    ∀ exchange ∈ exchanges,
      Permitted base context.repository context.number payload .review exchange.request := by
  have labelled : Permitted base context.repository context.number payload .review
      (.labelAddition base context.repository context.number [label]) := by
    rw [Request.labelAddition_eq]
    exact .reviewLabel one
  cases course with
  | labelled => exact List.forall_mem_singleton.mpr labelled
  | unlabelled =>
      exact List.forall_mem_cons.mpr ⟨labelled, List.forall_mem_singleton.mpr .ofComment⟩

theorem confined (accepted : Context.ofEvent true (some event) settings = .ok context) :
    (prepare context).Takes station (Course.within
      (Permitted station.service context.repository context.number event.payload .review)) := by
  unfold prepare
  refine .bindWithin (confined_assignAuthor accepted) fun _ => .atStation (.info ?_)
  refine .bindWithin ?_ fun _ => .info (.pure Course.within_nil)
  apply (takes_applyAndReport (Reports.label_spoken _)
    fun error => labelFailureComment_spoken _ error _).weaken
  intro exchanges result course
  rcases course with ⟨transition, -, course⟩
  exact course.permitted (Reports.label_eq_or _)

end Review

/-! ## Runs -/

/-- A request is permitted to a bot by an event: the event describes a context, and the request is
permitted for its repository and number. -/
inductive Permits (base : String) (event : Option Event) (bot : Bot) (request : Request) : Prop
  | permits {settings : Settings} {delivered : Event} {context : Context}
      (known : event = some delivered) (described : Context.Describes settings delivered context)
      (permitted : Permitted base context.repository context.number delivered.payload bot request)

/-- Settings have no part in what an event permits. -/
theorem Permits.permitted {base : String} {event : Option Event} {bot : Bot} {request : Request}
    (permits : Permits base event bot request) (settings : Settings) :
    ∃ delivered context, event = some delivered ∧
      Context.ofEvent true event settings = .ok context ∧
      Permitted base context.repository context.number delivered.payload bot request := by
  rcases permits with @⟨_, delivered, context, rfl, described, permitted⟩
  refine ⟨delivered, { context with settings }, rfl, ?_, permitted⟩
  rw [Context.ofEvent_settings, Context.ofEvent_eq_ok_iff_describes.mpr described]
  rfl

section

variable {station : Station} {session : Session} {event : Option Event} {source : Settings.Source}

/-- A run begins with its settings and its event, and nothing is requested without a context. -/
theorem takesFrom_context {α : Type} {bot : Bot} {name : String} {next : Context → Job α}
    (confined : ∀ {station delivered settings context},
      Context.ofEvent true (some delivered) settings = .ok context →
        (next context).Takes station (Course.within
          (Permitted station.service context.repository context.number delivered.payload bot))) :
    (do next (← (Context.ofEvent true event (← source.job)).mapError Failure.event) :
      Job α).TakesFrom { station with bot := name } session
        (Course.within (Permits station.service event bot)) := by
  refine source.takesFrom_context ?_ fun _ _ => Course.within_nil
  intro settings context _ accepted
  cases event with
  | none => cases accepted
  | some delivered =>
      apply (confined accepted).weaken
      intro exchanges result within exchange member
      exact .permits rfl (Context.ofEvent_eq_ok_iff_describes.mp accepted) (within exchange member)

theorem Comment.confined_run :
    (Comment.run event source.job).TakesFrom station session
      (Course.within (Permits station.service event .comment)) :=
  .named (.onFailure (takesFrom_context Comment.confined) fun _ => .record _ _)

theorem Commit.confined_assess :
    (Commit.assess event source.job).TakesFrom { station with bot := Commit.name } session
      (Course.within (Permits station.service event .commit)) :=
  takesFrom_context fun _ => Commit.confined

theorem Review.confined_run :
    (Review.run event source.job).TakesFrom station session
      (Course.within (Permits station.service event .review)) :=
  .named (.onFailure (takesFrom_context Review.confined) fun _ => .record _ _)

theorem Signing.confined_assess :
    (Signing.assess event source.job).TakesFrom { station with bot := Signing.name } session
      (Course.within (Permits station.service event .signing)) :=
  takesFrom_context Signing.confined

end

/-- Every request of a run is permitted by its event. -/
theorem permits_run (bot : Bot) (event : Option Event) (source : Settings.Source)
    (station : Station) (answers : List Answer) (files : Files) :
    ∀ request ∈ (bot.run event source.job station (.start answers files)).2.requests,
      Permits station.service event bot request := by
  cases bot with
  | comment =>
      rw [run, Job.map_run]
      exact Comment.confined_run.requests_within rfl
  | commit =>
      rcases Commit.run_eq event source.job station (.start answers files) with ⟨log, ran⟩
      rw [run, Job.map_run, ran]
      exact Commit.confined_assess.requests_within rfl
  | review =>
      rw [run, Job.map_run]
      exact Review.confined_run.requests_within rfl
  | signing =>
      rcases Signing.run_eq event source.job station (.start answers files) with
        ⟨noted, log, -, -, fresh, ran⟩
      rw [run, Job.map_run, ran]
      exact Signing.confined_assess.requests_within fresh

/-- Whatever its settings and whatever is answered: a bot whose event is not accepted requests
nothing, and any other bot requests nothing but what is permitted to it for its event. -/
theorem requests_permitted (bot : Bot) (event : Option Event) (settings : Settings)
    (source : Settings.Source) (station : Station) (answers : List Answer) (files : Files) :
    let ran := bot.run event source.job station (.start answers files)
    match Context.ofEvent true event settings with
    | .error _ => ran.2.requests = []
    | .ok context => ∃ delivered, event = some delivered ∧
        Context.Describes settings delivered context ∧ ∀ request ∈ ran.2.requests,
          Permitted station.service context.repository context.number delivered.payload bot
            request := by
  intro ran
  have permits := bot.permits_run event source station answers files
  cases accepted : Context.ofEvent true event settings with
  | error fault =>
      refine List.eq_nil_iff_forall_not_mem.mpr fun request member => ?_
      rcases (permits request member).permitted settings with ⟨_, context, -, other, -⟩
      cases accepted.symm.trans other
  | ok context =>
      cases event with
      | none => cases accepted
      | some delivered =>
          refine ⟨delivered, rfl, Context.ofEvent_eq_ok_iff_describes.mp accepted, ?_⟩
          intro request member
          rcases (permits request member).permitted settings with
            ⟨_, context, known, other, allowed⟩
          cases known
          cases accepted.symm.trans other
          exact allowed

end Bot

end Steward
