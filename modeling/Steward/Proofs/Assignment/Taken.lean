import Steward.Proofs.Assignment.Entitlement
import Steward.Proofs.Bot.Review

/-! Requests for an issue that is taken. Whatever else stands in the issue and whatever is answered,
they come to one comment, which tells whether it is the requester who has the issue. -/

namespace Steward.Assignment

open Steward.Bot.Review (IsNamed IsCalled lower_ne_lower_empty)

/-! ## Comments -/

namespace Comment

def reminder (requester : String) : Wording :=
  .ofLines
    ["👋 Hi @" ++ requester ++ "! You're already assigned to this issue. " ++
       "You're all set to start working on it!",
     "",
     "If you have any questions, feel free to ask here or reach out to the team."]

def redirection (requester : String) (holder : Wording) (repository : Repository) : Wording :=
  .ofLines
    ["👋 Hi @" ++ requester ++ "! This issue is already assigned to @" ++ holder ++ ".",
     "",
     "👉 **Find another issue to work on:**",
     s!"[Browse unassigned issues]({readyLink repository})",
     "",
     "Once you find one you like, comment `/assign` to get started!"]

theorem reminder_ne_redirection (requester : String) (holder : Wording)
    (repository : Repository) :
    reminder requester ≠ redirection requester holder repository := by
  intro same
  have points := congrArg Wording.points same
  simp [reminder, redirection, Wording.points_ofLines, Wording.characters] at points

theorem alreadyAssigned_of {requester : String} {issue : Json} {names : List Json} {found : Bool}
    (namesAre : logins issue = .ok names)
    (known : isNamed (Text.lower requester) names = .ok found) (repository : Repository) :
    alreadyAssigned (.text requester) issue repository =
      .ok (if found then reminder requester
        else redirection requester (holder names) repository) := by
  have named : isNamed (Wording.lower requester) names = .ok found := known
  rw [alreadyAssigned, namesAre, Except.ok_bind, Json.requireText, Except.ok_bind]
  simp only [named, Except.ok_bind]
  cases found <;> rfl

end Comment

/-! ## Assignees -/

structure IsAssignee (assignee : Json) : Prop where
  there : assignee ≠ .null
  named : IsNamed assignee

def nameOf (assignee : Json) : Wording :=
  let login := Event.textAt assignee ["login"]
  if login = "" then "someone" else login

variable {assignee : Json} {assignees : List Json}

theorem IsAssignee.field (isAssignee : IsAssignee assignee) :
    assignee.field "login" = .ok (Event.valueAt assignee ["login"]) := by
  cases isAssignee.named with
  | nobody => exact absurd rfl isAssignee.there
  | unnamed | named => rfl

theorem IsAssignee.login (isAssignee : IsAssignee assignee) :
    Comment.login assignee = .ok (.text (Event.textAt assignee ["login"])) := by
  rw [Comment.login, isAssignee.field, Except.ok_bind]
  cases isAssignee.named with
  | nobody => exact absurd rfl isAssignee.there
  | unnamed absent =>
      rw [Event.textAt, Event.valueAt_object, absent]
      rfl
  | @named _ login loginIs =>
      rw [Event.textAt, Event.valueAt_object, loginIs, Json.orElse_text]
      rfl

/-- An absent login is nobody's. -/
theorem IsAssignee.called_iff (isAssignee : IsAssignee assignee) {login : String}
    (present : login ≠ "") :
    (Event.textAt assignee ["login"]).lower = Text.lower login ↔ IsCalled login assignee := by
  rw [IsCalled, Event.textAt]
  cases isAssignee.named with
  | nobody => exact absurd rfl isAssignee.there
  | unnamed absent =>
      rw [Event.valueAt_object, absent]
      refine iff_of_false (fun same => lower_ne_lower_empty present ?_) (by simp)
      exact congrArg Wording.text same
  | named loginIs =>
      rw [Event.valueAt_object, loginIs]
      simp [Json.text?]

def loginOf (assignee : Json) : Json := .text (Event.textAt assignee ["login"])

def IsAmong (login : String) (assignees : List Json) : Prop :=
  ∃ assignee ∈ assignees, IsCalled login assignee

section

variable {login : String} {issue : List (Wording × Json)} {first : Json} {others : List Json}

theorem isNamed_eq (present : login ≠ "") (named : ∀ assignee ∈ assignees, IsAssignee assignee) :
    ∃ found, Comment.isNamed (Text.lower login) (assignees.map loginOf) = .ok found ∧
      (found = true ↔ IsAmong login assignees) := by
  unfold IsAmong
  induction assignees with
  | nil => exact ⟨false, rfl, by simp⟩
  | cons assignee rest induction =>
      rcases List.forall_mem_cons.mp named with ⟨first, others⟩
      rw [List.map_cons, Comment.isNamed, loginOf, Json.requireText, Except.ok_bind]
      simp only [List.mem_cons, exists_eq_or_imp, ← first.called_iff present]
      split
      · rename_i same
        exact ⟨true, rfl, by simp [same]⟩
      · rename_i different
        rcases induction others with ⟨found, known, iff_⟩
        exact ⟨found, known, by simp [different, iff_]⟩

theorem loginsOf_eq (named : ∀ assignee ∈ assignees, IsAssignee assignee) :
    ∃ logins, loginsOf (.list assignees) = .ok logins := by
  rw [loginsOf, Json.elements, Except.ok_bind,
    Except.mapM_eq_ok fun assignee member => (named assignee member).field]
  exact ⟨_, rfl⟩

theorem logins_eq (listed : Json.lookup issue "assignees" = .list assignees)
    (named : ∀ assignee ∈ assignees, IsAssignee assignee) :
    Comment.logins (.object issue) = .ok (assignees.map loginOf) := by
  rw [Comment.logins, Json.field, Except.ok_bind, listed, Json.orElse_list, Json.elements,
    Except.ok_bind, Except.mapM_eq_ok fun assignee member => (named assignee member).login]
  rfl

theorem holder_eq (logins : List Json) :
    Comment.holder (loginOf first :: logins) = nameOf first := by
  rw [Comment.holder, loginOf, nameOf]
  by_cases absent : Event.textAt first ["login"] = ""
  · simp [absent, Json.isFalsy]
  · simp [absent, Json.isFalsy, Json.display]

/-- The comment on an issue that is taken reminds its assignee, and redirects all others. -/
theorem alreadyAssigned_eq (present : login ≠ "") (repository : Repository)
    (listed : Json.lookup issue "assignees" = .list (first :: others))
    (named : ∀ assignee ∈ first :: others, IsAssignee assignee) :
    ∃ comment, Comment.alreadyAssigned (.text login) (.object issue) repository = .ok comment ∧
      (IsAmong login (first :: others) → comment = Comment.reminder login) ∧
      (¬IsAmong login (first :: others) →
        comment = Comment.redirection login (nameOf first) repository) := by
  rcases isNamed_eq present named with ⟨found, known, among⟩
  have made := Comment.alreadyAssigned_of (logins_eq listed named) known repository
  rw [List.map_cons, holder_eq] at made
  refine ⟨_, made, fun there => ?_, fun missing => ?_⟩
  · rw [if_pos (among.mpr there)]
  · rw [if_neg (missing ∘ among.mp)]

end

/-! ## Runs -/

section

variable {base : String} {context : Context} {issue comment : List (Wording × Json)}
  {login : String}
  {exchanges : List Exchange}

theorem IssueCourse.taken {passage : Except Failure (Passage SkillLevel)}
    (course : IssueCourse base context issue login exchanges passage)
    (taken : (Json.lookup issue "assignees").isFalsy = false) {logins : Json} {text : Wording}
    (known : loginsOf (Json.lookup issue "assignees") = .ok logins)
    (made : Comment.alreadyAssigned (.text login) (.object issue) context.repository = .ok text) :
    passage = .ok (.settled .alreadyAssigned) ∧
      ∃ answer, exchanges = [said base context text answer] := by
  cases course with
  | badAssignees _ bad =>
      rcases bad with bad | bad
      · cases known.symm.trans bad
      · cases made.symm.trans bad
  | alreadyAssigned _ madeToo =>
      cases made.symm.trans madeToo
      exact ⟨rfl, _, rfl⟩
  | badLabels free | notReady free | noSkillLabel free | through free =>
      cases taken.symm.trans free

/-- Where an issue is taken, a request ends at the first gate. -/
theorem RequestCourse.taken {result : Except Failure Decision}
    (course : RequestCourse base context issue comment login exchanges result)
    (taken : (Json.lookup issue "assignees").isFalsy = false) {logins : Json} {text : Wording}
    (known : loginsOf (Json.lookup issue "assignees") = .ok logins)
    (made : Comment.alreadyAssigned (.text login) (.object issue) context.repository = .ok text) :
    result = .ok .alreadyAssigned ∧ ∃ answer posted,
      exchanges = [reacted base context comment answer, said base context text posted] := by
  cases course with
  | issueFails fails => cases (fails.taken taken known made).1
  | issueSettles settles =>
      rcases settles.taken taken known made with ⟨settled, posted, rfl⟩
      cases settled
      exact ⟨rfl, _, posted, rfl⟩
  | limitFails issueLets | limitSettles issueLets | prerequisiteFails issueLets
  | prerequisiteSettles issueLets | assigns issueLets =>
      cases (issueLets.taken taken known made).1

end

/-- Whoever asks for an issue that is taken gets a thumb up and one comment, whatever else stands in
the issue and whatever is answered. The comment reminds the requester exactly if one of the
assignees is the requester; otherwise it names the first of them. -/
theorem handle_of_taken {event : Option Event} {settings : Settings} {context : Context}
    (accepted : Context.ofEvent true event settings = .ok context)
    (isComment : context.event = Context.commentEvent) {first : Json} {others : List Json}
    (listed : Event.payloadValue event ["issue", "assignees"] = .list (first :: others))
    (named : ∀ assignee ∈ first :: others, IsAssignee assignee) (station : Station)
    (session : Session) :
    ∃ (login : String) (text : Wording),
      Event.payloadValue event ["comment", "user", "login"] = .text login ∧
      (handle context station session).1 = .ok .alreadyAssigned ∧
      (handle context station session).2.requests = session.requests ++
        [.reaction station.service context.repository (Event.payloadValue event ["comment", "id"]),
          .comment station.service context.repository context.number text] ∧
      (text = Comment.reminder login ↔ IsAmong login (first :: others)) ∧
      (¬IsAmong login (first :: others) →
        text = Comment.redirection login (nameOf first) context.repository) := by
  rcases Context.ofEvent_commented accepted isComment with
    ⟨delivered, issue, comment, user, login, body, rfl, issueIs, commentIs, -, -, commented⟩
  have there : Json.lookup issue "assignees" = .list (first :: others) := by
    have found : Event.valueAt delivered.payload ["issue", "assignees"] = .list (first :: others) :=
      listed
    rwa [Event.valueAt_cons, issueIs, Event.valueAt_object] at found
  have present : login ≠ "" := by
    intro empty
    subst empty
    cases commented.spoken
  rcases loginsOf_eq named with ⟨logins, known⟩
  rcases alreadyAssigned_eq present context.repository there named with
    ⟨text, made, reminds, redirects⟩
  rw [← there] at known
  rcases takes_handle commented session with ⟨exchanges, reached, course⟩
  rcases course.taken (by rw [there]; rfl) known made with ⟨settled, answer, posted, rfl⟩
  refine ⟨login, text, ?_, settled, ?_, ⟨fun same => ?_, reminds⟩, redirects⟩
  · exact Event.valueAt_login commentIs commented.userIs commented.loginIs
  · rw [reached.requests, Event.payloadValue, Event.valueAt_cons, commentIs, Event.valueAt_object]
    rfl
  · by_contra missing
    exact Comment.reminder_ne_redirection _ _ _ (same.symm.trans (redirects missing))

def takenIssue : Json :=
  .object [("number", .integer 7), ("labels", .integer 5),
    ("assignees", .list [.object [], .object [("login", .text "ADA")]])]

/-- Somebody whose issue it is already, in another case and after a nameless assignee, is
reminded. -/
theorem handle_of_taken_again :
    let event := { asking with
      payload := .object [("issue", takenIssue), ("comment", askingComment)] }
    let context := { askingContext with issue := some takenIssue }
    let assignees : List Json := [.object [], .object [("login", .text "ADA")]]
    let session := Session.start [.refusal "Connection refused"] []
    Context.ofEvent true (some event) .standard = .ok context ∧
      context.event = Context.commentEvent ∧
      Event.payloadValue (some event) ["issue", "assignees"] = .list assignees ∧
      (∀ assignee ∈ assignees, IsAssignee assignee) ∧
      (handle context askingStation session).1 = .ok .alreadyAssigned ∧
      (handle context askingStation session).2.requests =
        [.reaction "https://api.github.com" ⟨"hiero", "sdk"⟩ (.integer 11),
          .comment "https://api.github.com" ⟨"hiero", "sdk"⟩ 7 (Comment.reminder "ada")] := by
  intro event context assignees session
  have accepted : Context.ofEvent true (some event) .standard = .ok context := rfl
  have named : ∀ assignee ∈ assignees, IsAssignee assignee := by
    simp only [assignees, List.forall_mem_cons]
    exact ⟨⟨nofun, .unnamed rfl⟩, ⟨nofun, .named rfl⟩, nofun⟩
  rcases handle_of_taken accepted rfl rfl named askingStation session with
    ⟨login, text, loginIs, settled, requests, reminds, -⟩
  cases loginIs
  have among : IsAmong "ada" assignees :=
    ⟨_, List.mem_cons_of_mem _ List.mem_cons_self, "ADA", rfl, by decide +kernel⟩
  rw [reminds.mpr among] at requests
  exact ⟨accepted, rfl, rfl, named, settled, requests⟩

end Steward.Assignment
