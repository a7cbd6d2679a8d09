import Steward.Bot.Comment
import Steward.Proofs.Address
import Steward.Proofs.Assignment.Entitlement
import Steward.Proofs.Command
import Steward.Proofs.Settings

/-! The bot that reads comments, as a whole: it assigns an issue exactly if whoever comments on it
is granted it. -/

namespace Steward.Bot.Comment

open Assignment

/-! ## Runs -/

inductive RunCourse (base : String) (event : Event) (settings : Except Failure Settings) :
    Course (List Decision)
  | unconcerned {result : Except Failure (List Decision)}
      (unconcerned : ∀ known context, settings = .ok known →
        Context.ofEvent true (some event) known = .ok context →
          context.event ≠ Context.commentEvent) :
      RunCourse base event settings [] result
  | dispatched {known : Settings} {context : Context} {issue comment user : List (Wording × Json)}
      {login : String} {body : Wording} {exchanges : List Exchange}
      {result : Except Failure (List Decision)}
      (settingsAre : settings = .ok known)
      (accepted : Context.ofEvent true (some event) known = .ok context)
      (isComment : context.event = Context.commentEvent)
      (issueIs : Event.valueAt event.payload ["issue"] = .object issue)
      (commentIs : Event.valueAt event.payload ["comment"] = .object comment)
      (commented : context.Commented issue comment user login body)
      (course : Command.DispatchCourse base context issue comment login exchanges result) :
      RunCourse base event settings exchanges result

/-- A context of another event than a comment is passed over. -/
theorem takes_dispatch_other {station : Station} {context : Context}
    (uncommented : context.comment = none) :
    (Command.dispatch context).Takes station Course.quiet := by
  unfold Command.dispatch
  rw [uncommented]
  exact .liftOk rfl (.liftOk rfl (.info (.pure rfl)))

theorem takes_run (event : Event) (source : Settings.Source) (station : Station)
    (session : Session) :
    (run (some event) source.job).TakesFrom station session
      (RunCourse station.service event (source.read name station session)) := by
  refine .named (.onFailure (source.takesFrom_context ?_ ?_) fun failure => Job.Takes.record _ _)
  · intro known context settingsAre accepted
    by_cases isComment : context.event = Context.commentEvent
    · rcases Context.ofEvent_commented accepted isComment with
        ⟨_, issue, comment, user, login, body, same, issueIs, commentIs, -, -, commented⟩
      cases same
      apply (Command.takes_dispatch commented).weaken
      intro exchanges result course
      exact .dispatched settingsAre accepted isComment issueIs commentIs commented course
    · apply (takes_dispatch_other (Context.ofEvent_comment_eq_none accepted isComment)).weaken
      intro exchanges result nothing
      rw [nothing]
      refine .unconcerned fun other otherContext otherAre otherAccepted => ?_
      cases otherAre.symm.trans settingsAre
      cases otherAccepted.symm.trans accepted
      exact isComment
  · intro unaccepted failure
    exact .unconcerned fun known context settingsAre accepted =>
      absurd accepted (unaccepted known context settingsAre)

/-! ## Grants -/

/-- A comment by which its author is granted an issue. -/
structure Grant (event : Event) (settings : Settings) (answers : List Answer) (context : Context)
    (login : String) (level : SkillLevel) : Prop where
  accepted : Context.ofEvent true (some event) settings = .ok context
  isComment : event.name = .text Context.commentEvent
  asks : Command.Asks (Event.valueAt event.payload ["comment"])
  author : Event.valueAt event.payload ["comment", "user", "login"] = .text login
  entitled : Entitled (Event.valueAt event.payload ["issue"]) answers level

/-- Of idle exchanges none is an assignment. -/
theorem filter_idle {base : String} {exchanges : List Exchange}
    (idle : ∀ exchange ∈ exchanges, exchange.request.Idle base) :
    (exchanges.map Exchange.request).filter Request.isAssignment = [] := by
  rw [List.filter_eq_nil_iff]
  intro request member
  rcases List.mem_map.mp member with ⟨exchange, known, rfl⟩
  simp [(idle exchange known).not_isAssignment]

theorem filter_assignCourse {base login : String} {context : Context} {level : SkillLevel}
    {exchanges : List Exchange} {result : Except Failure Decision}
    (course : AssignCourse base context login level exchanges result) :
    (exchanges.map Exchange.request).filter Request.isAssignment =
      [.assignees base context.repository context.number [login]] := by
  have commented (text : Wording) :
      (Request.comment base context.repository context.number text).isAssignment = false :=
    (Request.Idle.comment _ _ _).not_isAssignment
  cases course <;>
    simp [said, assigneeAdded, readyRemoved, progressAdded, commented,
      Request.isAssignment_assignees, Request.isAssignment_readyRemoval,
      Request.isAssignment_labelAddition]

/-- Whatever a run comes to, it assigns an issue only to somebody who is granted it. -/
theorem RunCourse.granted {base : String} {event : Event} {settings : Except Failure Settings}
    {answers : List Answer} {requests : List Request} {exchanges : List Exchange}
    {result : Except Failure (List Decision)}
    (course : RunCourse base event settings exchanges result)
    (told : exchanges = Exchange.pair answers requests)
    (assigns : (exchanges.map Exchange.request).filter Request.isAssignment ≠ []) :
    ∃ known context login level, settings = .ok known ∧
      Grant event known answers context login level := by
  cases course with
  | unconcerned => simp at assigns
  | @dispatched known context issue comment user login body _ _ settingsAre accepted isComment
      issueIs commentIs commented course =>
      cases course with
      | ignored => simp at assigns
      | handled asks course =>
          rcases course.idle_or_assigns with idle | ⟨level, answer, searches, changes, rfl,
            issueLets, cleared, ends⟩
          · exact absurd (filter_idle idle) assigns
          · refine ⟨known, context, login, level, settingsAre, accepted, ?_, commentIs ▸ asks, ?_,
              issueIs ▸ cleared.entitled issueLets told⟩
            · rw [Context.ofEvent_event accepted, isComment]
            · exact Event.valueAt_login commentIs commented.userIs commented.loginIs

/-- A run in which somebody is granted an issue goes through all gates. -/
theorem RunCourse.of_grant {base : String} {event : Event} {settings : Except Failure Settings}
    {answers : List Answer} {requests : List Request} {exchanges : List Exchange}
    {result : Except Failure (List Decision)} {known : Settings} {context : Context}
    {login : String} {level : SkillLevel}
    (course : RunCourse base event settings exchanges result)
    (told : exchanges = Exchange.pair answers requests) (settingsAre : settings = .ok known)
    (grant : Grant event known answers context login level) :
    ∃ comment answer searches changes decided,
      exchanges = reacted base context comment answer :: (searches ++ changes) ∧
        Cleared base context login level searches ∧
        AssignCourse base context login level changes decided := by
  have isComment : context.event = Context.commentEvent :=
    Json.eq_of_text ((Context.ofEvent_event grant.accepted).symm.trans grant.isComment)
  cases course with
  | unconcerned unconcerned =>
      exact absurd isComment (unconcerned known context settingsAre grant.accepted)
  | @dispatched other _ issue comment user author body _ _ otherAre accepted _
      issueIs commentIs commented course =>
      cases settingsAre.symm.trans otherAre
      cases grant.accepted.symm.trans accepted
      have authorAt := Event.valueAt_login commentIs commented.userIs commented.loginIs
      cases authorAt.symm.trans grant.author
      cases course with
      | ignored other => exact absurd (commentIs ▸ grant.asks) other
      | handled asks course =>
          rcases course.assigns_of_entitled told (issueIs ▸ grant.entitled) with
            ⟨answer, searches, changes, split, cleared, ends⟩
          exact ⟨comment, answer, searches, changes, _, split, cleared, ends⟩

/-- It assigns the issue to them, and nothing to anybody else. -/
theorem filter_of_grant {base login : String} {context : Context} {level : SkillLevel}
    {comment : List (Wording × Json)} {answer : Answer} {exchanges searches changes : List Exchange}
    {decided : Except Failure Decision}
    (split : exchanges = reacted base context comment answer :: (searches ++ changes))
    (cleared : Cleared base context login level searches)
    (ends : AssignCourse base context login level changes decided) :
    (exchanges.map Exchange.request).filter Request.isAssignment =
      [.assignees base context.repository context.number [login]] := by
  have idle : (reacted base context comment answer).request.Idle base := .reaction _ _
  rw [split, List.map_cons, List.map_append, List.filter_cons_of_neg (by
    simp [idle.not_isAssignment]), List.filter_append, filter_idle cleared.idle,
    filter_assignCourse ends]
  rfl

/-- A run requests an assignment exactly if its event is a comment by which somebody is granted an
issue. Then it requests this one assignment, after the searches that clear it. -/
theorem assigns_iff_granted (event : Event) (source : Settings.Source) (station : Station)
    (answers : List Answer) (files : Files) :
    let after := (run (some event) source.job station (.start answers files)).2
    let settings := source.read name station (.start answers files)
    ((∃ request ∈ after.requests, request.isAssignment = true) ↔
      ∃ known context login level, settings = .ok known ∧
        Grant event known answers context login level) ∧
    ∀ known context login level, settings = .ok known →
      Grant event known answers context login level →
        after.requests.filter Request.isAssignment =
            [.assignees station.service context.repository context.number [login]] ∧
          ∃ reaction searches changes,
            Exchange.pair answers after.requests = reaction :: (searches ++ changes) ∧
              Cleared station.service context login level searches := by
  rcases takes_run event source station (.start answers files) with ⟨exchanges, reached, course⟩
  have told := reached.eq_pair
  have requests := congrArg (List.map Exchange.request) told
  rw [Exchange.map_request_pair] at requests
  intro after settings
  refine ⟨⟨?_, ?_⟩, ?_⟩
  · intro assigned
    rcases assigned with ⟨request, member, isAssignment⟩
    refine course.granted told fun none_ => ?_
    rw [requests, List.filter_eq_nil_iff] at none_
    exact none_ request member isAssignment
  · intro granted
    rcases granted with ⟨known, context, login, level, settingsAre, grant⟩
    rcases course.of_grant told settingsAre grant with
      ⟨comment, answer, searches, changes, _, split, cleared, ends⟩
    refine ⟨.assignees station.service context.repository context.number [login], ?_,
      Request.isAssignment_assignees _⟩
    have only := filter_of_grant split cleared ends
    rw [requests] at only
    exact (List.mem_filter.mp (only ▸ List.mem_singleton_self _)).1
  · intro known context login level settingsAre grant
    rcases course.of_grant told settingsAre grant with
      ⟨comment, answer, searches, changes, _, split, cleared, ends⟩
    rw [← told, ← requests]
    exact ⟨filter_of_grant split cleared ends, _, searches, changes, split, cleared⟩

end Steward.Bot.Comment
