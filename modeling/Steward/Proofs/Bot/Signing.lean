import Steward.Bot.Signing
import Steward.Proofs.Action
import Steward.Proofs.Commit.Basic
import Steward.Proofs.Commit.Listing
import Steward.Proofs.Commit.Report
import Steward.Proofs.Context
import Steward.Proofs.Output
import Steward.Proofs.Settings

/-! Courses of the bot that verifies signing. Its check run comes first; its comment and its result
follow from what the check run says and whether it was taken. -/

namespace Steward.Bot.Signing

open Steward.Commit

/-! ## Reports -/

/-- Nothing is found exactly if every commit passes both checks. -/
theorem areNone_iff_forall {commits : List Json} {findings : Findings}
    (unsignedAre : unsigned commits = .ok findings.unsigned)
    (unverifiedAre : unverified commits = .ok findings.unverified) :
    findings.areNone = true ↔
      ∀ commit ∈ commits, IsSignedOff commit ∧ HasVerifiedSignature commit := by
  rw [Findings.areNone_iff, failing_eq_nil_iff unsignedAre, failing_eq_nil_iff unverifiedAre]
  simp only [isSignedOff_eq_true_iff, isVerified_eq_true_iff]
  exact ⟨fun both commit member => ⟨both.1 commit member, both.2 commit member⟩,
    fun both => ⟨fun commit member => (both commit member).1,
      fun commit member => (both commit member).2⟩⟩

/-! ## Courses -/

section

variable (base now : String) (context : Context) (head : Json)

def checked (report : CheckReport) (answer : Answer) : Exchange :=
  ⟨.checkRun base context.repository (checkRun head report now), answer⟩

/-- What follows a check run by its conclusion and the answer to it. -/
inductive Aftermath (conclusion : Conclusion) (answer : Answer) : Course Bool
  | refused {failure : Failure} (refused : ¬Service.Accepts answer) :
      Aftermath conclusion answer [] (.error failure)
  | passed (accepted : Service.Accepts answer) (success : conclusion = .success) :
      Aftermath conclusion answer [] (.ok true)
  | complained {comment : Wording} {posted : Answer} (accepted : Service.Accepts answer)
      (failure : conclusion = .failure) :
      Aftermath conclusion answer
        [⟨.comment base context.repository context.number comment, posted⟩] (.ok false)

inductive JudgeCourse (commits : List Json) : Course Bool
  | unreadable {failure : Failure} : JudgeCourse commits [] (.error failure)
  | reported {report : CheckReport} {answer : Answer} {exchanges : List Exchange}
      {result : Except Failure Bool}
      (success_iff : report.conclusion = .success ↔
        ∀ commit ∈ commits, IsSignedOff commit ∧ HasVerifiedSignature commit)
      (aftermath : Aftermath base context report.conclusion answer exchanges result) :
      JudgeCourse commits (checked base now context head report answer :: exchanges) result

inductive HeadCourse : Course Bool
  | unfetched {pages : List Exchange} {failure : Failure}
      (course : PageCourse base context.repository context.number standardPerPage 1 pages
        (.error failure)) :
      HeadCourse pages (.error failure)
  | empty {pages : List Exchange}
      (course : PageCourse base context.repository context.number standardPerPage 1 pages
        (.ok [])) :
      HeadCourse pages (.ok false)
  | judged {pages exchanges : List Exchange} {commits : List Json} {result : Except Failure Bool}
      (course : PageCourse base context.repository context.number standardPerPage 1 pages
        (.ok commits))
      (some_ : commits ≠ []) (judged : JudgeCourse base now context head commits exchanges result) :
      HeadCourse (pages ++ exchanges) result

/-- A pull request does not tell at which commit it stands: it has no head, or one without a
commit. -/
inductive Headless (pull : Json) : Prop
  | head (absent : (Event.valueAt pull ["head"]).isFalsy = true)
  | commit {head : List (Wording × Json)} (headIs : Event.valueAt pull ["head"] = .object head)
      (absent : (Json.lookup head "sha").isFalsy = true)

inductive VerifyCourse : Course Bool
  | headless (headless : Headless (Context.part context.pull)) : VerifyCourse [] (.ok false)
  | strange {failure : Failure} (strange : ¬Headless (Context.part context.pull)) :
      VerifyCourse [] (.error failure)
  | headed {head : List (Wording × Json)} {exchanges : List Exchange} {result : Except Failure Bool}
      (headIs : Event.valueAt (Context.part context.pull) ["head"] = .object head)
      (there : (Json.lookup head "sha").isFalsy = false)
      (course : HeadCourse base now context
        (Event.valueAt (Context.part context.pull) ["head", "sha"]) exchanges result) :
      VerifyCourse exchanges result

end

section

variable {station : Station} {context : Context} {head : Json}

theorem takes_createCheckRun (report : CheckReport) :
    (createCheckRun context head report).Takes station fun exchanges result =>
      ∃ answer, exchanges = [checked station.service station.now context head report answer] ∧
        result = (Service.decode answer).map fun _ => () := by
  unfold createCheckRun
  refine .atStation (.ask (Service.takes_createCheckRun _ _) ?_ ?_)
  · intro answer value decoded
    exact .info (.pure ⟨answer, rfl, by rw [decoded]; rfl⟩)
  · intro answer failure failed
    exact ⟨answer, rfl, by rw [failed]; rfl⟩

theorem takes_judge (commits : List Json) :
    (judge context head commits).Takes station
      (JudgeCourse station.service station.now context head commits) := by
  unfold judge
  refine .lift (fun unsigned unsignedAre => ?_) fun _ _ => .unreadable
  refine .lift (fun unverified unverifiedAre => ?_) fun _ _ => .unreadable
  refine .info (.info (.info ?_))
  generalize findingsAre : Findings.mk unsigned unverified = findings
  have success_iff : (checkReport (toString commits.length) findings context.settings).conclusion =
      .success ↔ ∀ commit ∈ commits, IsSignedOff commit ∧ HasVerifiedSignature commit := by
    subst findingsAre
    rw [conclusion_eq_success_iff]
    exact areNone_iff_forall unsignedAre unverifiedAre
  apply Job.Takes.bind (takes_createCheckRun _)
  · intro exchanges value posted
    rcases posted with ⟨answer, rfl, taken⟩
    have accepted : Service.Accepts answer := by
      rcases Except.map_eq_ok_iff.mp taken.symm with ⟨value, decoded, -⟩
      exact Service.accepts_iff.mpr ⟨value, decoded⟩
    cases areNone : findings.areNone with
    | true =>
        have none_ : signingComment findings context.settings = none := by
          simp [signingComment, areNone]
        simp only [none_]
        exact .pure (.reported success_iff
          (.passed accepted (conclusion_eq_success_iff.mpr areNone)))
    | false =>
        cases made : signingComment findings context.settings with
        | none => simp [signingComment, areNone] at made
        | some comment =>
            exact .askOk (Action.takes_say (signingComment_spoken made)) fun _ =>
              .pure (.reported success_iff (.complained accepted (conclusion_eq_failure areNone)))
  · intro exchanges failure posted
    rcases posted with ⟨answer, rfl, refused⟩
    refine .reported success_iff (.refused fun accepts => ?_)
    rcases Service.accepts_iff.mp accepts with ⟨value, decoded⟩
    rw [decoded] at refused
    cases refused

theorem takes_headed :
    (do
      let commits ← fetchAll context.repository context.number standardPerPage
      if commits.isEmpty then
        Job.info "Exit: no commits on PR"
        return false
      judge context head commits : Job Bool).Takes station
      (HeadCourse station.service station.now context head) := by
  refine .bind (takes_fetchAll (by decide)) ?_ fun pages failure course => .unfetched course
  intro pages commits course
  cases commits with
  | nil => exact .info (.pure (Course.after_end.mpr (.empty course)))
  | cons commit rest =>
      apply (takes_judge (commit :: rest)).weaken
      intro exchanges result judged
      exact .judged course (List.cons_ne_nil _ _) judged

theorem takes_verify
    (pullIs : context.pull = none ∨ ∃ members, context.pull = some (.object members)) :
    (verify context).Takes station (VerifyCourse station.service station.now context) := by
  have object : ∃ members, (Context.part context.pull).orEmpty = .object members := by
    rcases pullIs with none_ | ⟨members, some_⟩
    · exact ⟨[], by rw [none_]; rfl⟩
    · exact ⟨members, by rw [some_]; exact Json.orEmpty_object members⟩
  rcases object with ⟨members, members_⟩
  have headAt : Event.valueAt (Context.part context.pull) ["head"] =
      Json.lookup members "head" := by
    rw [← Json.valueAt_orEmpty, members_, Event.valueAt_object]
  unfold verify
  simp only [members_]
  refine .liftOk rfl ?_
  cases absent : (Json.lookup members "head").isFalsy with
  | true =>
      rw [Json.orEmpty, Json.orElse_of_falsy absent]
      refine .liftOk rfl ?_
      exact .info (.pure (.headless (.head (headAt ▸ absent))))
  | false =>
      rw [Json.orEmpty, Json.orElse_of_truthy absent]
      cases headIs : Json.lookup members "head" with
      | object head =>
          rw [headIs] at headAt
          refine .liftOk rfl ?_
          cases unknown : (Json.lookup head "sha").isFalsy with
          | true =>
              rw [if_pos rfl]
              exact .info (.pure (.headless (.commit headAt unknown)))
          | false =>
              rw [if_neg Bool.false_ne_true]
              apply takes_headed.weaken
              intro exchanges result course
              refine .headed headAt unknown ?_
              rwa [Event.valueAt_cons, headAt, Event.valueAt_object]
      | _ =>
          refine .lift (fun commit known => by cases known) fun failure failed => .strange ?_
          intro headless
          cases headless with
          | head other =>
              rw [headAt, absent] at other
              cases other
          | commit other =>
              rw [headAt, headIs] at other
              cases other

end

/-! ## Assessments -/

def assess (event : Option Event) (settings : Job Settings) : Job Bool := do
  let context ← (Context.ofEvent true event (← settings)).mapError Failure.event
  verify context

inductive AssessCourse (base now : String) (event : Option Event)
    (settings : Except Failure Settings) : Course Bool
  | refused {failure : Failure}
      (unaccepted : ∀ known context, settings = .ok known →
        Context.ofEvent true event known ≠ .ok context) :
      AssessCourse base now event settings [] (.error failure)
  | accepted {known : Settings} {context : Context} {exchanges : List Exchange}
      {result : Except Failure Bool} (settingsAre : settings = .ok known)
      (accepted : Context.ofEvent true event known = .ok context)
      (course : VerifyCourse base now context exchanges result) :
      AssessCourse base now event settings exchanges result

theorem takes_assess (event : Option Event) (source : Settings.Source) (station : Station)
    (session : Session) :
    (assess event source.job).TakesFrom { station with bot := name } session
      (AssessCourse station.service station.now event (source.read name station session)) := by
  refine source.takesFrom_context ?_ fun unaccepted failure => .refused unaccepted
  intro known context settingsAre accepted
  have pullIs : context.pull = none ∨ ∃ members, context.pull = some (.object members) := by
    rcases Context.ofEvent_pull accepted with none_ | ⟨pull, -, pulled⟩
    · exact .inl none_
    · exact .inr ⟨pull, pulled.pullIs⟩
  apply (takes_verify pullIs).weaken
  intro exchanges result course
  exact .accepted settingsAre accepted course

def reported (result : Except Failure Bool) : Output.Values :=
  let passed := match result with
    | .ok passed => passed
    | .error _ => false
  [("dco_gpg_passed", .text (Conclusion.ofPassed passed).name)]

theorem areEncodable_reported (result : Except Failure Bool) :
    Output.AreEncodable (reported result) :=
  ⟨(Output.lines (reported result)).text, rfl⟩

theorem run_eq_reporting (event : Option Event) (settings : Job Settings) :
    run event settings = Job.named name (do
      Job.info (snapshot event)
      Output.reporting (assess event settings) reported "DCO/GPG bot completed"
        (complaint event)) := by
  unfold run assess Output.reporting
  simp only [bind_assoc]
  rfl

/-- A run takes note of its event, and then comes to what it has found, and to files with its
verdict. -/
theorem run_eq (event : Option Event) (settings : Job Settings) (station : Station)
    (session : Session) :
    ∃ noted log, noted.answers = session.answers ∧ noted.files = session.files ∧
      noted.requests = session.requests ∧
      let assessed := assess event settings { station with bot := name } noted
      run event settings station session = (assessed.1, { assessed.2 with
        log
        files := Output.recorded station.environment (reported assessed.1) assessed.2.files }) := by
  let noted := (Job.info (snapshot event) { station with bot := name } session).2
  rcases Output.reporting_run (assess event settings) areEncodable_reported
    "DCO/GPG bot completed" (complaint event) { station with bot := name } noted with ⟨log, ran⟩
  refine ⟨noted, log, rfl, rfl, rfl, ?_⟩
  rw [run_eq_reporting]
  exact ran

end Steward.Bot.Signing
