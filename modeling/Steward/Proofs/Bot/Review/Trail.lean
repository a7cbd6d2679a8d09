import Steward.Proofs.Bot.Review
import Steward.Proofs.Log

/-! What the preparation of a pull request leaves behind. Its author is assigned if this has not
been done, its label is asked for in every case, and a comment tells where the label was not
accepted. -/

namespace Steward.Bot.Review

/-! ## The log -/

def refusal : String := "Exit: invalid pr.author"

def IsRefusal (text : Wording) : Prop := refusal.toList <+: text.shown.toList

section

variable {station : Station} {context : Context}

theorem logs_passOver : passOver.Logs station (¬IsRefusal ·) :=
  .info (by simp [IsRefusal, refusal]) (.pure _)

theorem logs_assignNamed (login : String) :
    (assignNamed context login).Logs station (¬IsRefusal ·) := by
  refine .info (by simp [IsRefusal, refusal, toString]) ?_
  refine .lift fun assignees _ => .lift fun items _ => .lift fun found _ => ?_
  cases found with
  | true => exact .info (by simp [IsRefusal, refusal, toString]) (.pure _)
  | false =>
      refine .bind ?_ fun _ => .pure _
      refine Action.logs_guarded (fun _ => Service.logs_call _ _ _ _) (fun reason => ?_) ?_
      · simp [IsRefusal, refusal]
      · simp [IsRefusal, refusal]

/-- No author of an accepted pull request is refused: what an author is checked for is what a
request needs of a login. -/
theorem logs_assignAuthor {event : Option Event} {settings : Settings}
    (accepted : Context.ofEvent true event settings = .ok context) :
    (assignAuthor context).Logs station (¬IsRefusal ·) := by
  rcases Context.ofEvent_pull accepted with none_ | ⟨pull, -, pulled⟩
  · rw [assignAuthor_none none_]
    exact logs_passOver
  · rcases pulled.author with absent | ⟨user, login, userIs, loginIs, spoken, word⟩
    · rw [assignAuthor_absent pulled absent]
      exact logs_passOver
    · rw [assignAuthor_present pulled userIs loginIs spoken word]
      exact logs_assignNamed login

theorem logs_addLabels (labels : List Json) :
    (Action.addLabels context (.list labels)).Logs station (¬IsRefusal ·) := by
  refine Action.logs_guarded (fun _ => Service.logs_call _ _ _ _) (fun reason => ?_) ?_
  · simp [IsRefusal, refusal]
  · simp [IsRefusal, refusal]

theorem logs_say (comment : Wording) :
    (Action.say context comment).Logs station (¬IsRefusal ·) := by
  refine .bind ?_ fun _ => .pure _
  refine Action.logs_guarded (fun _ => Service.logs_call _ _ _ _) (fun reason => ?_) ?_
  · simp [IsRefusal, refusal]
  · simp [IsRefusal, refusal]

theorem logs_applyAndReport (comment : Wording → Wording) (label : Json) :
    (Transition.applyAndReport context comment [label] []).Logs station (¬IsRefusal ·) := by
  refine .bind (.bind (.pure _) fun removed => .bind ?_ fun added => .pure _) fun transition => ?_
  · exact .bind (logs_addLabels _) fun outcome => .bind (.pure _) fun others => .pure _
  · refine .bind ?_ fun _ => .pure _
    unfold Transition.report
    split
    · exact .bind (logs_say _) fun _ => .record (by simp [IsRefusal, refusal])
    · exact .pure _

/-- No run of an event says that an author is refused, be the event accepted or not. -/
theorem logs_run (event : Option Event) (source : Settings.Source) :
    (run event source.job).Logs station (¬IsRefusal ·) := by
  refine .named (.onFailure (.bind source.logs_job fun settings => .lift ?_) fun failure => ?_)
  · intro context accepted
    rw [Except.mapError_eq_ok_iff] at accepted
    refine .bind (logs_assignAuthor accepted) fun assigned => .atStation (.info ?_ ?_)
    · simp [IsRefusal, refusal, Reports.render, toString]
    · refine .bind (logs_applyAndReport _ _) fun transition => .info ?_ (.pure _)
      simp [IsRefusal, refusal]
  · exact .record (by simp [IsRefusal, refusal, complaint])

end

/-! ## The comment -/

theorem points_labelFailure (label : String) (reason : Wording) :
    (labelFailure label reason).points = Wording.characters "Failed to add \"" ++
      Wording.characters label ++ (Wording.characters "\" label: " ++ reason.points) := by
  rw [labelFailure, Wording.points_append, Wording.points_coe]
  simp only [Wording.characters_append, toString, List.append_assoc]

theorem label_infix_labelFailure (label : String) (reason : Wording) :
    (label : Wording).points <:+: (labelFailure label reason).points := by
  rw [points_labelFailure, Wording.points_coe]
  exact ⟨_, _, rfl⟩

theorem reason_infix_labelFailure (label : String) (reason : Wording) :
    reason.points <:+: (labelFailure label reason).points := by
  rw [points_labelFailure, ← List.append_assoc]
  exact (List.suffix_append _ _).isInfix

theorem infix_labelFailureComment (label : String) (error : Wording) (settings : Settings) :
    error.points <:+: (labelFailureComment label error settings).points := by
  have told : error.points <:+: (("**Error:** " : Wording) ++ error).points := by
    rw [Wording.points_append]
    exact (List.suffix_append _ _).isInfix
  exact told.trans (Wording.infix_ofLines (by simp))

/-! ## Requests -/

section

variable {base label : String} {context : Context} {comment : Wording → Wording}
  {exchanges : List Exchange}

def assignment (base : String) (context : Context) (assigned : Option String) : List Request :=
  assigned.toList.map fun login : String =>
    .assignees base context.repository context.number [login]

def remark (base : String) (context : Context) (told : Option Wording) : List Request :=
  told.toList.map fun text => .comment base context.repository context.number text

theorem length_assignment (assigned : Option String) :
    (assignment base context assigned).length = assigned.toList.length := List.length_map _

theorem AuthorCourse.requests {result : Except Failure Bool}
    (author : AuthorCourse base context exchanges result) :
    ∃ assigned, exchanges.map Exchange.request = assignment base context assigned ∧
      ∀ login, assigned = some login ↔ IsUnassigned (Context.part context.pull) login := by
  cases author with
  | stays unwanted =>
      exact ⟨none, rfl, fun login => iff_of_false nofun (unwanted login)⟩
  | @assigns login _ _ unassigned =>
      refine ⟨some login, rfl, fun other => ⟨fun same => ?_, fun also => ?_⟩⟩
      · cases same
        exact unassigned
      · rw [unassigned.unique also.toIsAuthor]

/-- A comment on the failure follows exactly where the label is not accepted. -/
theorem LabelCourse.requests {answers : List Answer}
    (labels : LabelCourse base context label comment exchanges)
    (inTurn : exchanges = Exchange.pair answers (exchanges.map Exchange.request)) :
    ∃ told, exchanges.map Exchange.request =
        .labelAddition base context.repository context.number [label] ::
          remark base context told ∧
      (told = none ↔ Service.Accepts (Answer.inTurn answers 0)) ∧
      ∀ text, told = some text → ∃ failure, Service.Denies (Answer.inTurn answers 0) failure ∧
        text = comment (labelFailure label failure.message) := by
  cases labels with
  | labelled accepts =>
      rcases Exchange.told_cons inTurn with ⟨rfl, -⟩
      exact ⟨none, rfl, iff_of_true rfl accepts, nofun⟩
  | @unlabelled _ posted failure denies =>
      rcases Exchange.told_cons inTurn with ⟨rfl, -⟩
      refine ⟨some _, rfl, iff_of_false nofun denies.not_accepts, fun text same => ?_⟩
      exact ⟨failure, denies, (Option.some.inj same).symm⟩

/-- The label is asked for after at most an assignment, and before at most a comment. -/
theorem PrepareCourse.requests {answers : List Answer} {result : Except Failure String}
    (course : PrepareCourse base context label exchanges result)
    (inTurn : exchanges = Exchange.pair answers (exchanges.map Exchange.request)) :
    result = .ok label ∧ ∃ assigned told,
      exchanges.map Exchange.request = assignment base context assigned ++
        .labelAddition base context.repository context.number [label] ::
          remark base context told ∧
      (∀ login, assigned = some login ↔ IsUnassigned (Context.part context.pull) login) ∧
      let answer := Answer.inTurn answers assigned.toList.length
      (told = none ↔ Service.Accepts answer) ∧
      ∀ text, told = some text → (label : Wording).points <:+: text.points ∧
        ∃ failure, Service.Denies answer failure ∧ failure.message.points <:+: text.points := by
  cases course with
  | prepared author labels =>
      rcases author.requests with ⟨assigned, first, unassigned⟩
      rcases labels.requests (Exchange.pair_parts inTurn).2 with ⟨told, second, accepted, denied⟩
      have asked := congrArg List.length first
      rw [List.length_map, length_assignment] at asked
      rw [Answer.inTurn_drop, asked, Nat.add_zero] at accepted denied
      refine ⟨rfl, assigned, told, ?_, unassigned, accepted, fun text same => ?_⟩
      · rw [List.map_append, first, second]
      · rcases denied text same with ⟨failure, denies, rfl⟩
        have tells := infix_labelFailureComment label (labelFailure label failure.message)
          context.settings
        exact ⟨(label_infix_labelFailure _ _).trans tells, failure, denies,
          (reason_infix_labelFailure _ _).trans tells⟩

end

/-! ## Runs -/

/-- A pull request that is accepted is labelled, whatever is answered and whatever the environment
holds. Its author is assigned before that exactly if it has one who is not among the assignees, and
a comment that names the label and the reason comes after that exactly if the label is not
accepted. -/
theorem run_labels_always {event : Option Event} {source : Settings.Source} {station : Station}
    {session : Session} {known : Settings} {context : Context}
    (settingsAre : source.read name station session = .ok known)
    (accepted : Context.ofEvent true event known = .ok context) (pulled : context.pull ≠ none)
    (assignees : AreNamed (Event.payloadValue event ["pull_request", "assignees"])) :
    let run := run event source.job station session
    let pull := Event.payloadValue event ["pull_request"]
    let Passed (check : String) := station.environment.get? check = some "success"
    ∃ (label : String) (assigned : Option String) (told : Option Wording),
      let answer := Answer.inTurn session.answers assigned.toList.length
      run.1 = .ok label ∧
      run.2.requests = session.requests ++ assignment station.service context assigned ++
        .labelAddition station.service context.repository context.number [label] ::
          remark station.service context told ∧
      (∀ login, assigned = some login ↔ IsUnassigned pull login) ∧
      ((Event.valueAt pull ["user"]).isFalsy = false → ∃ login, IsAuthor pull login) ∧
      (label = "status: needs review" ∨ label = "status: needs revision") ∧
      (label = "status: needs review" ↔
        Passed "DCO_PASSED" ∧ Passed "GPG_PASSED" ∧ Passed "MERGE_CONFLICT") ∧
      (told = none ↔ Service.Accepts answer) ∧
      (∀ text, told = some text → (label : Wording).points <:+: text.points ∧
        ∃ failure, Service.Denies answer failure ∧ failure.message.points <:+: text.points) ∧
      ∃ lines, run.2.log = session.log ++ lines ∧ ∀ line ∈ lines, ¬IsRefusal line.text := by
  intro run pull Passed
  rcases Context.ofEvent_pull accepted with none_ | ⟨members, pullIs, holds⟩
  · exact absurd none_ pulled
  have same : pull = .object members := pullIs
  rw [Context.payloadValue_pull accepted pulled, holds.pullIs] at assignees
  rcases takes_run settingsAre accepted holds assignees with ⟨exchanges, reached, course⟩
  rcases course.requests reached.told with
    ⟨returned, assigned, told, requests, unassigned, accepts, denies⟩
  refine ⟨_, assigned, told, returned, ?_, ?_, ?_, ?_, ?_, accepts, denies,
    logs_run event source session⟩
  · rw [reached.requests, requests, List.append_assoc]
  · rw [same, ← holds.part_eq]
    exact unassigned
  · rw [same]
    exact IsAuthor.of_pulled holds
  · exact Reports.label_eq_or _
  · rw [← Label.needsReview, Reports.label_eq_needsReview_iff]
    simp [Reports.ofEnvironment, Passed]

/-- A pull request with an author who is not among its assignees, some of whom have no name. -/
def authored : Event where
  name := .text "pull_request"
  repository := .object [("owner", .text "hiero"), ("repo", .text "sdk")]
  payload := .object [("pull_request", .object
    [("number", .integer 8), ("user", .object [("login", .text "ada")]),
      ("assignees", .list [.null, .object [], .object [("login", .text "bob")]])])]

def authoredContext : Context where
  repository := ⟨"hiero", "sdk"⟩
  event := "pull_request"
  number := 8
  issue := none
  pull := some (Event.valueAt authored.payload ["pull_request"])
  comment := none
  settings := .standard

theorem ofEvent_authored :
    Context.ofEvent true (some authored) .standard = .ok authoredContext := rfl

/-- An author is assigned past assignees without a name, and a label that does not arrive is told
of. -/
theorem run_labels_always_refused :
    let station : Station := ⟨"on-pr", "https://api.github.com", "token", [], "12:00:00"⟩
    let source := Settings.Source.given .standard
    let session := Session.start [.standard, .refusal "Connection refused"] []
    let run := run (some authored) source.job station session
    source.read name station session = .ok .standard ∧
      AreNamed (Event.payloadValue (some authored) ["pull_request", "assignees"]) ∧
      run.1 = .ok "status: needs revision" ∧ ∃ text : Wording,
        run.2.requests =
          [.assignees "https://api.github.com" ⟨"hiero", "sdk"⟩ 8 ["ada"],
            .labelAddition "https://api.github.com" ⟨"hiero", "sdk"⟩ 8 ["status: needs revision"],
            .comment "https://api.github.com" ⟨"hiero", "sdk"⟩ 8 text] ∧
        ("status: needs revision" : Wording).points <:+: text.points ∧
        ("Connection refused" : Wording).points <:+: text.points := by
  intro station source session
  have settingsAre : source.read name station session = .ok .standard := rfl
  have named : AreNamed (Event.payloadValue (some authored)
      ["pull_request", "assignees"]) := by
    refine .inr ⟨_, rfl, ?_⟩
    simp only [List.forall_mem_cons]
    exact ⟨.nobody, .unnamed rfl, .named rfl, nofun⟩
  have missing : IsUnassigned (Event.payloadValue (some authored) ["pull_request"])
      "ada" := by
    refine ⟨⟨rfl, rfl⟩, fun assignees same assignee member called => ?_⟩
    cases same
    rcases called with ⟨other, loginIs, same⟩
    simp only [List.mem_cons, List.not_mem_nil, or_false] at member
    rcases member with rfl | rfl | rfl <;> cases loginIs
    exact absurd same (by decide)
  rcases run_labels_always settingsAre ofEvent_authored nofun named with
    ⟨label, assigned, told, returned, requests, unassigned, -, either, review, accepts, denies, -⟩
  cases (unassigned "ada").mpr missing
  have revision : label = "status: needs revision" :=
    either.resolve_left fun same => by cases (review.mp same).1
  subst revision
  cases told with
  | none => cases accepts.mp rfl
  | some text =>
      rcases denies text rfl with ⟨names, failure, denied, tells⟩
      cases denied
      exact ⟨settingsAre, named, returned, text, requests, names, tells⟩

end Steward.Bot.Review
