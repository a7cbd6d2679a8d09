import Steward.Proofs.Context.Shape

/-! Accepted events. A context holds what its event has been checked for. -/

namespace Steward

namespace Context

theorem checkedRepository_eq_ok {value : Json} {repository : Repository}
    (checked : checkedRepository value = .ok repository) :
    Event.valueAt value ["owner"] = .text repository.owner ∧
      Event.valueAt value ["repo"] = .text repository.name ∧
      (Json.text repository.owner).isSearchWord = true ∧
      (Json.text repository.name).isSearchWord = true := by
  rcases checkedRepository_eq_ok_iff.mp checked with ⟨ownerIs, ownerWord, nameIs, nameWord⟩
  exact ⟨ownerIs, nameIs, IsWord.iff_isSearchWord.mp ownerWord,
    IsWord.iff_isSearchWord.mp nameWord⟩

/-- What a context of a comment on an issue has been checked for: its author can be named in a
search and in a request, and it has a text. -/
structure Commented (context : Context) (issue comment user : List (Wording × Json))
    (login : String) (body : Wording) : Prop where
  issueIs : context.issue = some (.object issue)
  commentIs : context.comment = some (.object comment)
  userIs : Json.lookup comment "user" = .object user
  loginIs : Json.lookup user "login" = .text login
  bodyIs : Json.lookup comment "body" = .text body
  spoken : Text.isAllBlank login = false
  author : (Json.text login).isSearchWord = true
  owner : (Json.text context.repository.owner).isSearchWord = true
  repository : (Json.text context.repository.name).isSearchWord = true

theorem checkedComment_eq_ok {comment : Json} {nothing : Unit}
    (checked : checkedComment comment = .ok nothing) :
    ∃ members user, ∃ login : String, ∃ body, comment = .object members ∧
      Json.lookup members "user" = .object user ∧ Json.lookup user "login" = .text login ∧
      Json.lookup members "body" = .text body ∧ Text.isAllBlank login = false ∧
      (Json.text login).isSearchWord = true := by
  rcases checkedComment_eq_ok_iff.mp checked with ⟨author, bodyIs⟩
  rcases isAuthor_iff.mp author with ⟨⟨user, userIs⟩, login, loginIs, word⟩
  rw [userIs, Event.valueAt_object] at loginIs
  exact ⟨_, user, login, _, rfl, userIs, loginIs, bodyIs, word.spoken,
    IsWord.iff_isSearchWord.mp word⟩

/-! ## Accepted events -/

inductive Accepted (event : Event) (settings : Settings) : Context → Prop
  | pull {repository : Repository} {name : String} {number : Int}
      (found : checkedRepository event.repository = .ok repository)
      (named : event.name = .text name) (kind : name ∈ pullEvents)
      (checked : checkedPull (Event.valueAt event.payload ["pull_request"]) = .ok number) :
      Accepted event settings
        ⟨repository, name, number, none, some (Event.valueAt event.payload ["pull_request"]), none,
          settings⟩
  | comment {repository : Repository} {number : Int}
      (found : checkedRepository event.repository = .ok repository)
      (named : event.name = .text commentEvent)
      (checked : checkedIssue (Event.valueAt event.payload ["issue"]) = .ok number)
      (commented : checkedComment (Event.valueAt event.payload ["comment"]) = .ok ()) :
      Accepted event settings
        ⟨repository, commentEvent, number, some (Event.valueAt event.payload ["issue"]), none,
          some (Event.valueAt event.payload ["comment"]), settings⟩
  | issue {repository : Repository} {name : String} {number : Int}
      (found : checkedRepository event.repository = .ok repository)
      (named : event.name = .text name) (other : name ≠ commentEvent)
      (checked : checkedIssue (Event.valueAt event.payload ["issue"]) = .ok number) :
      Accepted event settings
        ⟨repository, name, number, some (Event.valueAt event.payload ["issue"]), none, none,
          settings⟩

theorem accepted_of_ofEvent {event : Option Event} {settings : Settings} {context : Context}
    (accepted : ofEvent true event settings = .ok context) :
    ∃ delivered, event = some delivered ∧ Accepted delivered settings context := by
  cases event with
  | none => cases accepted
  | some delivered =>
      refine ⟨delivered, rfl, ?_⟩
      cases ofEvent_eq_ok_iff_describes.mp accepted with
      | pull kind found numbered author =>
          exact .pull (checkedRepository_eq_ok_iff.mpr found) rfl (by simpa [pullEvents] using kind)
            (checkedPull_eq_ok_iff.mpr ⟨numbered, author⟩)
      | issue found numbered =>
          exact .issue (checkedRepository_eq_ok_iff.mpr found) rfl (by decide)
            (checkedIssue_eq_ok_iff.mpr numbered)
      | comment found numbered commented =>
          exact .comment (checkedRepository_eq_ok_iff.mpr found) rfl
            (checkedIssue_eq_ok_iff.mpr numbered) (checkedComment_eq_ok_iff.mpr commented)

/-- Settings are taken as they are: they have no part in whether an event is accepted. -/
theorem ofEvent_settings (hasClient : Bool) (event : Option Event) (settings other : Settings) :
    ofEvent hasClient event other =
      (ofEvent hasClient event settings).map fun context => { context with settings := other } := by
  cases hasClient with
  | false => rfl
  | true =>
      cases event with
      | none => rfl
      | some event =>
          simp only [ofEvent, Bool.not_true, Bool.false_eq_true, if_false]
          cases event.repository.requireObject "context.repo" with
          | error => rfl
          | ok =>
          cases event.payload.requireObject "context.payload" with
          | error => rfl
          | ok =>
          cases checkedRepository event.repository with
          | error => rfl
          | ok repository =>
          cases event.name.requireNonBlank "context.eventName" with
          | error => rfl
          | ok name =>
          simp only [Except.ok_bind]
          split
          · cases checkedPull (Event.valueAt event.payload ["pull_request"]) <;> rfl
          · split
            · cases checkedIssue (Event.valueAt event.payload ["issue"]) with
              | error => rfl
              | ok number =>
              simp only [Except.ok_bind]
              split
              · cases checkedComment (Event.valueAt event.payload ["comment"]) <;> rfl
              · rfl
            · rfl

/-- A context of a comment is made of the issue and the comment of its event. -/
theorem ofEvent_commented {event : Option Event} {settings : Settings} {context : Context}
    (accepted : ofEvent true event settings = .ok context)
    (isComment : context.event = commentEvent) :
    ∃ delivered issue comment user login body, event = some delivered ∧
      Event.valueAt delivered.payload ["issue"] = .object issue ∧
      Event.valueAt delivered.payload ["comment"] = .object comment ∧
      Json.lookup issue "number" = .integer context.number ∧ context.settings = settings ∧
      context.Commented issue comment user login body := by
  rcases accepted_of_ofEvent accepted with ⟨delivered, rfl, shape⟩
  cases shape with
  | pull found named kind checked =>
      subst isComment
      simp [pullEvents, commentEvent] at kind
  | issue found named other checked => exact absurd isComment other
  | comment found named checked commented =>
      rcases checkedRepository_eq_ok found with ⟨-, -, owner, repository⟩
      rcases isNumbered_iff.mp (checkedIssue_eq_ok_iff.mp checked) with
        ⟨⟨issue, issueIs⟩, numberIs, -⟩
      rcases checkedComment_eq_ok commented with
        ⟨comment, user, login, body, commentIs, userIs, loginIs, bodyIs, spoken, author⟩
      rw [issueIs, Event.valueAt_object] at numberIs
      exact ⟨delivered, issue, comment, user, login, body, rfl, issueIs, commentIs, numberIs, rfl,
        ⟨by rw [issueIs], by rw [commentIs], userIs, loginIs, bodyIs, spoken, author, owner,
          repository⟩⟩

theorem ofEvent_event {event : Event} {settings : Settings} {context : Context}
    (accepted : ofEvent true (some event) settings = .ok context) :
    event.name = .text context.event := by
  rcases accepted_of_ofEvent accepted with ⟨delivered, same, shape⟩
  cases same
  cases shape with
  | pull _ named | comment _ named | issue _ named => exact named

theorem ofEvent_repository {event : Event} {settings : Settings} {context : Context}
    (accepted : ofEvent true (some event) settings = .ok context) :
    Event.valueAt event.repository ["owner"] = .text context.repository.owner ∧
      Event.valueAt event.repository ["repo"] = .text context.repository.name := by
  rcases accepted_of_ofEvent accepted with ⟨delivered, same, shape⟩
  cases same
  cases shape with
  | pull found | comment found | issue found =>
      rcases checkedRepository_eq_ok found with ⟨owner, name, -⟩
      exact ⟨owner, name⟩

theorem ofEvent_number {event : Event} {settings : Settings} {context : Context}
    (accepted : ofEvent true (some event) settings = .ok context)
    (isComment : context.event = commentEvent) :
    Event.valueAt event.payload ["issue", "number"] = .integer context.number := by
  rcases ofEvent_commented accepted isComment with
    ⟨_, issue, _, _, _, _, same, issueIs, -, number, -⟩
  cases same
  rw [Event.valueAt_cons, issueIs, Event.valueAt_object, number]

/-- Only a context of a comment has one. -/
theorem ofEvent_comment_eq_none {event : Option Event} {settings : Settings} {context : Context}
    (accepted : ofEvent true event settings = .ok context)
    (isOther : context.event ≠ commentEvent) : context.comment = none := by
  rcases accepted_of_ofEvent accepted with ⟨delivered, rfl, shape⟩
  cases shape with
  | comment => exact absurd rfl isOther
  | pull => rfl
  | issue => rfl

/-! ## Pull requests -/

/-- What a context of a pull request has been checked for: it may have no author, but one that it
has can be named in a request. -/
structure Pulled (context : Context) (pull : List (Wording × Json)) : Prop where
  pullIs : context.pull = some (.object pull)
  author : (Json.lookup pull "user").isFalsy = true ∨
    ∃ user, ∃ login : String, Json.lookup pull "user" = .object user ∧
      Json.lookup user "login" = .text login ∧ Text.isAllBlank login = false ∧
      (Json.text login).isSearchWord = true

theorem Pulled.part_eq {context : Context} {pull : List (Wording × Json)}
    (pulled : context.Pulled pull) : part context.pull = .object pull := by
  rw [pulled.pullIs]
  rfl

theorem checkedPull_eq_ok {pull : Json} {number : Int} (checked : checkedPull pull = .ok number) :
    ∃ members, pull = .object members ∧ Json.lookup members "number" = .integer number ∧
      ((Json.lookup members "user").isFalsy = true ∨
        ∃ user, ∃ login : String, Json.lookup members "user" = .object user ∧
          Json.lookup user "login" = .text login ∧ Text.isAllBlank login = false ∧
          (Json.text login).isSearchWord = true) := by
  rcases checkedPull_eq_ok_iff.mp checked with ⟨numbered, author⟩
  rcases numbered with ⟨numberIs, -⟩
  refine ⟨_, rfl, numberIs, author.imp_right fun author => ?_⟩
  rcases isAuthor_iff.mp author with ⟨⟨user, userIs⟩, login, loginIs, word⟩
  rw [userIs, Event.valueAt_object] at loginIs
  exact ⟨user, login, userIs, loginIs, word.spoken, IsWord.iff_isSearchWord.mp word⟩

/-- A context of a pull request is made of that of its event; other contexts have none. -/
theorem ofEvent_pull {event : Option Event} {settings : Settings} {context : Context}
    (accepted : ofEvent true event settings = .ok context) :
    context.pull = none ∨
      ∃ pull, Event.payloadValue event ["pull_request"] = .object pull ∧ context.Pulled pull := by
  rcases accepted_of_ofEvent accepted with ⟨delivered, rfl, shape⟩
  cases shape with
  | comment | issue => exact .inl rfl
  | pull found named kind checked =>
      rcases checkedPull_eq_ok checked with ⟨pull, pullIs, -, author⟩
      exact .inr ⟨pull, pullIs, by rw [pullIs], author⟩

/-- What lies in the pull request of a context lies in that of its event. -/
theorem payloadValue_pull {event : Option Event} {settings : Settings} {context : Context}
    (accepted : ofEvent true event settings = .ok context) (some_ : context.pull ≠ none)
    (path : List String) :
    Event.payloadValue event ("pull_request" :: path) =
      Event.valueAt (part context.pull) path := by
  rcases ofEvent_pull accepted with none_ | ⟨pull, pullIs, pulled⟩
  · exact absurd none_ some_
  · have split := Event.payloadValue_append event ["pull_request"] path
    rw [pullIs] at split
    rw [pulled.pullIs]
    exact split

end Context

end Steward
