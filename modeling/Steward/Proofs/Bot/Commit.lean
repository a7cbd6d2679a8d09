import Steward.Bot.Commit
import Steward.Proofs.Action
import Steward.Proofs.Commit.Basic
import Steward.Proofs.Commit.Listing
import Steward.Proofs.Commit.Report
import Steward.Proofs.Conflict
import Steward.Proofs.Output
import Steward.Proofs.Settings

/-! The bot that checks commits, as a whole. Wherever a run ends, it has complained only of checks
that it reports as failed. -/

namespace Steward.Bot.Commit

open Steward.Commit

/-! ## Verdicts -/

def Verdicts.of (verdicts : Verdicts) : Check → Conclusion
  | .signoff => verdicts.signoff
  | .signature => verdicts.signature
  | .conflict => verdicts.conflict

def reported : Except Failure Verdicts → Verdicts
  | .ok verdicts => verdicts
  | .error _ => .ofFailure

theorem ofPassed_eq_success_iff {passed : Bool} :
    Conclusion.ofPassed passed = .success ↔ passed = true := by
  cases passed <;> decide

theorem ofPassed_eq_failure_iff {passed : Bool} :
    Conclusion.ofPassed passed = .failure ↔ passed = false := by
  cases passed <;> decide

/-! ## Complaints -/

def complainsOf (check : Check) (request : Request) : Bool :=
  match request.body with
  | .object [(_, .text content)] => check.greets content
  | _ => false

def complained (base : String) (context : Context) (comment : Wording) (answer : Answer) :
    Exchange :=
  ⟨.comment base context.repository context.number comment, answer⟩

inductive Complaints (base : String) (context : Context) (check : Check) :
    Conclusion → List Exchange → Prop
  | none : Complaints base context check .success []
  | one {comment : Wording} (answer : Answer) (complaint : IsComplaint check comment) :
      Complaints base context check .failure [complained base context comment answer]

section

variable {base : String} {context : Context} {check : Check} {conclusion : Conclusion}
  {exchanges : List Exchange}

theorem Complaints.complainsOf_iff {exchange : Exchange} {other : Check}
    (complaints : Complaints base context check conclusion exchanges)
    (member : exchange ∈ exchanges) :
    complainsOf other exchange.request = true ↔ other = check := by
  cases complaints with
  | none => cases member
  | one answer complaint =>
      rw [List.mem_singleton.mp member]
      exact complaint.greets_iff

theorem Complaints.failed {exchange : Exchange}
    (complaints : Complaints base context check conclusion exchanges)
    (member : exchange ∈ exchanges) : conclusion = .failure := by
  cases complaints with
  | none => cases member
  | one => rfl

end

/-! ## Checks -/

/-- The checks of all commits in a run that does not fail, with its complaints. -/
structure Checked (base : String) (context : Context) (commits : List Json)
    (pages polls : List Exchange) (complaints : Check → List Exchange) (verdicts : Verdicts) :
    Prop where
  fetched : PageCourse base context.repository context.number standardPerPage 1 pages (.ok commits)
  polled : ∃ conflicts,
    Conflict.PollCourse base context.repository context.number 5 polls (.ok conflicts)
  signoff : verdicts.signoff = .success ↔ ∀ commit ∈ commits, IsSignedOff commit
  signature : verdicts.signature = .success ↔ ∀ commit ∈ commits, HasVerifiedSignature commit
  conflict : verdicts.conflict = .failure ↔
    ∃ mergeable, Conflict.firstKnown polls = some mergeable ∧ mergeable ≠ .bool true
  complains (check : Check) : Complaints base context check (verdicts.of check) (complaints check)

inductive CheckCourse (base : String) (context : Context) : Course Verdicts
  | unfetched {pages : List Exchange} {failure : Failure}
      (course : PageCourse base context.repository context.number standardPerPage 1 pages
        (.error failure)) :
      CheckCourse base context pages (.error failure)
  | unreadable {pages : List Exchange} {commits : List Json} {failure : Failure}
      (fetched : PageCourse base context.repository context.number standardPerPage 1 pages
        (.ok commits)) :
      CheckCourse base context pages (.error failure)
  | unverifiable {pages first : List Exchange} {commits : List Json} {signoff : Conclusion}
      {failure : Failure}
      (fetched : PageCourse base context.repository context.number standardPerPage 1 pages
        (.ok commits))
      (signoffs : Complaints base context .signoff signoff first) :
      CheckCourse base context (pages ++ first) (.error failure)
  | unpolled {pages first second polls : List Exchange} {commits : List Json}
      {signoff signature : Conclusion} {failure : Failure}
      (fetched : PageCourse base context.repository context.number standardPerPage 1 pages
        (.ok commits))
      (signoffs : Complaints base context .signoff signoff first)
      (signatures : Complaints base context .signature signature second)
      (course : Conflict.PollCourse base context.repository context.number 5 polls
        (.error failure)) :
      CheckCourse base context (pages ++ first ++ second ++ polls) (.error failure)
  | checked {commits : List Json} {pages polls : List Exchange}
      {complaints : Check → List Exchange} {verdicts : Verdicts}
      (checked : Checked base context commits pages polls complaints verdicts) :
      CheckCourse base context
        (pages ++ complaints .signoff ++ complaints .signature ++ polls ++ complaints .conflict)
        (.ok verdicts)

inductive ConcludeCourse (base : String) (context : Context) (check : Check) (passes : Prop) :
    Course Conclusion
  | fails {failure : Failure} : ConcludeCourse base context check passes [] (.error failure)
  | concludes {conclusion : Conclusion} {exchanges : List Exchange}
      (complaints : Complaints base context check conclusion exchanges)
      (success_iff : conclusion = .success ↔ passes) :
      ConcludeCourse base context check passes exchanges (.ok conclusion)

section

variable {station : Station} {context : Context}

theorem takes_complain {check : Check} {comment : Wording} (complaint : IsComplaint check comment) :
    (do Action.say context comment; return Conclusion.failure : Job Conclusion).Takes station
      fun exchanges result => result = .ok .failure ∧
        Complaints station.service context check .failure exchanges := by
  exact .askOk (Action.takes_say complaint.spoken) fun answer => .pure ⟨rfl, .one answer complaint⟩

theorem takes_conclude {check : Check} {label : String} {total : Nat} {findings : List Finding}
    {comment : List Finding → Settings → Wording}
    (complaint : IsComplaint check (comment findings context.settings)) :
    (conclude context label total findings comment).Takes station fun exchanges result =>
      result = .ok (.ofPassed findings.isEmpty) ∧
        Complaints station.service context check (.ofPassed findings.isEmpty) exchanges := by
  apply Job.Takes.info
  cases findings.isEmpty with
  | true => exact .pure ⟨rfl, .none⟩
  | false => exact takes_complain complaint

/-- A check of commits, by what it takes for a commit to pass. -/
theorem takes_conclude_failing {check : Check} {label : String} {commits : List Json}
    {passes : Json → Except Failure Bool} {holds : Json → Prop}
    {comment : List Finding → Settings → Wording}
    (passes_iff : ∀ {commit}, passes commit = .ok true ↔ holds commit)
    (complaint : ∀ findings settings, IsComplaint check (comment findings settings)) :
    (do conclude context label commits.length (← failing passes commits) comment :
        Job Conclusion).Takes station
      (ConcludeCourse station.service context check (∀ commit ∈ commits, holds commit)) := by
  refine .lift ?_ fun failure failed => .fails
  intro findings found
  apply (takes_conclude (complaint findings context.settings)).weaken
  intro exchanges result concluded
  rcases concluded with ⟨known, complaints⟩
  rw [known]
  refine .concludes complaints ?_
  rw [ofPassed_eq_success_iff, List.isEmpty_iff, failing_eq_nil_iff found]
  exact forall₂_congr fun commit member => passes_iff

theorem takes_checkSignoffs (commits : List Json) :
    (checkSignoffs context commits).Takes station
      (ConcludeCourse station.service context .signoff (∀ commit ∈ commits, IsSignedOff commit)) :=
  takes_conclude_failing isSignedOff_eq_true_iff .signoff

theorem takes_checkSignatures (commits : List Json) :
    (checkSignatures context commits).Takes station
      (ConcludeCourse station.service context .signature
        (∀ commit ∈ commits, HasVerifiedSignature commit)) :=
  takes_conclude_failing isVerified_eq_true_iff .signature

/-- Once the polls have come to something, nothing can fail any more. -/
inductive ConflictCourse (base : String) (context : Context) : Course Conclusion
  | unpolled {polls : List Exchange} {failure : Failure}
      (course : Conflict.PollCourse base context.repository context.number 5 polls
        (.error failure)) :
      ConflictCourse base context polls (.error failure)
  | concludes {polls exchanges : List Exchange} {conflicts : Bool}
      (course : Conflict.PollCourse base context.repository context.number 5 polls
        (.ok conflicts))
      (complaints : Complaints base context .conflict (.ofPassed !conflicts) exchanges) :
      ConflictCourse base context (polls ++ exchanges) (.ok (.ofPassed !conflicts))

theorem takes_checkConflict :
    (checkConflict context).Takes station (ConflictCourse station.service context) := by
  refine .bind (Conflict.takes_check _) ?_ fun polls failure course => .unpolled course
  intro polls conflicts course
  apply Job.Takes.info
  cases conflicts with
  | false => exact .pure (.concludes course .none)
  | true =>
      apply (takes_complain (.conflict context.settings)).weaken
      intro exchanges result concluded
      rcases concluded with ⟨known, complaints⟩
      rw [known]
      exact .concludes course complaints

theorem Checked.ofParts {base : String} {commits : List Json} {signoff signature : Conclusion}
    {conflicts : Bool} {pages polls first second third : List Exchange}
    (fetched : PageCourse base context.repository context.number standardPerPage 1 pages
      (.ok commits))
    (signoff_iff : signoff = .success ↔ ∀ commit ∈ commits, IsSignedOff commit)
    (signoffs : Complaints base context .signoff signoff first)
    (signature_iff : signature = .success ↔ ∀ commit ∈ commits, HasVerifiedSignature commit)
    (signatures : Complaints base context .signature signature second)
    (course : Conflict.PollCourse base context.repository context.number 5 polls (.ok conflicts))
    (complaint : Complaints base context .conflict (.ofPassed !conflicts) third) :
    Checked base context commits pages polls
      (fun | .signoff => first | .signature => second | .conflict => third)
      ⟨signoff, signature, .ofPassed !conflicts⟩ where
  fetched := fetched
  polled := ⟨conflicts, course⟩
  signoff := signoff_iff
  signature := signature_iff
  conflict := by
    rw [← course.conflicts_iff, ofPassed_eq_failure_iff]
    simp
  complains check := by
    cases check with
    | signoff => exact signoffs
    | signature => exact signatures
    | conflict => exact complaint

theorem takes_check : (check context).Takes station (CheckCourse station.service context) := by
  refine .bind (takes_fetchAll (by decide)) ?_ fun pages failure course => .unfetched course
  intro pages commits fetched
  apply Job.Takes.bind (takes_checkSignoffs commits)
  · intro first signoff course
    cases course with
    | concludes signoffs signoff_iff =>
    apply Job.Takes.bind (takes_checkSignatures commits)
    · intro second signature course
      cases course with
      | concludes signatures signature_iff =>
      apply Job.Takes.bind takes_checkConflict
      · intro third conflict course
        generalize outcome : Except.ok conflict = result at course
        cases course with
        | unpolled => cases outcome
        | concludes course conflicts =>
            cases outcome
            have checked := Checked.ofParts fetched signoff_iff signoffs signature_iff signatures
              course conflicts
            refine .pure ?_
            simpa [Course.after] using CheckCourse.checked checked
      · intro polls failure course
        cases course with
        | unpolled course =>
            simpa [Course.after] using CheckCourse.unpolled fetched signoffs signatures course
    · intro second failure course
      cases course with
      | fails => simpa [Course.after] using CheckCourse.unverifiable fetched signoffs
  · intro first failure course
    cases course with
    | fails => simpa [Course.after] using CheckCourse.unreadable fetched

end

/-! ## Consistency -/

section

variable {base : String} {context : Context}

def Silent (exchanges : List Exchange) : Prop :=
  ∀ exchange ∈ exchanges, ∀ check, complainsOf check exchange.request = false

theorem silent_pages {pages : List Exchange} {page : Int} {result : Except Failure (List Json)}
    (course : PageCourse base context.repository context.number standardPerPage page pages
      result) : Silent pages := by
  intro exchange member check
  rcases course.asks exchange member with ⟨page, answer, equal⟩
  rw [equal]
  rfl

theorem silent_polls {polls : List Exchange} {left : Nat} {result : Except Failure Bool}
    (course : Conflict.PollCourse base context.repository context.number left polls result) :
    Silent polls := by
  intro exchange member check
  rcases course.asks exchange member with ⟨answer, equal⟩
  rw [equal]
  rfl

theorem Silent.filter {exchanges : List Exchange} (silent : Silent exchanges) (check : Check) :
    exchanges.filter (fun exchange => complainsOf check exchange.request) = [] := by
  rw [List.filter_eq_nil_iff]
  intro exchange member
  rw [silent exchange member check]
  exact Bool.false_ne_true

theorem Complaints.filter {check other : Check} {conclusion : Conclusion}
    {exchanges : List Exchange} (complaints : Complaints base context check conclusion exchanges) :
    exchanges.filter (fun exchange => complainsOf other exchange.request) =
      if other = check then exchanges else [] := by
  split
  · rename_i same
    rw [List.filter_eq_self]
    intro exchange member
    exact (complaints.complainsOf_iff member).mpr same
  · rename_i different
    rw [List.filter_eq_nil_iff]
    intro exchange member complains
    exact different ((complaints.complainsOf_iff member).mp complains)

/-- The complaints of a check are those of its conclusion and no others. -/
theorem Checked.filter {commits : List Json} {pages polls : List Exchange}
    {complaints : Check → List Exchange} {verdicts : Verdicts}
    (checked : Checked base context commits pages polls complaints verdicts) (check : Check) :
    (pages ++ complaints .signoff ++ complaints .signature ++ polls ++
        complaints .conflict).filter (fun exchange => complainsOf check exchange.request) =
      complaints check := by
  rcases checked.polled with ⟨conflicts, course⟩
  have pages_ := (silent_pages checked.fetched).filter check
  have polls_ := (silent_polls course).filter check
  simp only [List.filter_append, pages_, polls_, (checked.complains .signoff).filter,
    (checked.complains .signature).filter, (checked.complains .conflict).filter]
  cases check <;> simp

/-- Wherever the checks end, what has been complained of is reported. -/
theorem CheckCourse.failed {exchanges : List Exchange} {result : Except Failure Verdicts}
    {exchange : Exchange} {check : Check}
    (course : CheckCourse base context exchanges result) (member : exchange ∈ exchanges)
    (complains : complainsOf check exchange.request = true) :
    (reported result).of check = .failure := by
  have loud {others : List Exchange} (silent : Silent others) : exchange ∉ others := by
    intro other
    rw [silent exchange other check] at complains
    cases complains
  cases course with
  | unfetched course => exact absurd member (loud (silent_pages course))
  | unreadable fetched => exact absurd member (loud (silent_pages fetched))
  | unverifiable fetched signoffs =>
      rcases List.mem_append.mp member with member | member
      · exact absurd member (loud (silent_pages fetched))
      · rw [(signoffs.complainsOf_iff member).mp complains]
        rfl
  | unpolled fetched signoffs signatures course =>
      rcases List.mem_append.mp member with member | member
      · rcases List.mem_append.mp member with member | member
        · rcases List.mem_append.mp member with member | member
          · exact absurd member (loud (silent_pages fetched))
          · rw [(signoffs.complainsOf_iff member).mp complains]
            rfl
        · rw [(signatures.complainsOf_iff member).mp complains]
          rfl
      · exact absurd member (loud (silent_polls course))
  | @checked _ _ _ complaints _ checked =>
      have complaint : exchange ∈ complaints check := by
        rw [← checked.filter check]
        exact List.mem_filter.mpr ⟨member, complains⟩
      exact (checked.complains check).failed complaint

end

/-! ## Runs -/

def assess (event : Option Event) (settings : Job Settings) : Job Verdicts := do
  let context ← (Context.ofEvent true event (← settings)).mapError Failure.event
  check context

inductive AssessCourse (base : String) (event : Option Event)
    (settings : Except Failure Settings) : Course Verdicts
  | refused {failure : Failure} : AssessCourse base event settings [] (.error failure)
  | accepted {known : Settings} {context : Context} {exchanges : List Exchange}
      {result : Except Failure Verdicts} (settingsAre : settings = .ok known)
      (accepted : Context.ofEvent true event known = .ok context)
      (course : CheckCourse base context exchanges result) :
      AssessCourse base event settings exchanges result

theorem AssessCourse.failed {base : String} {event : Option Event}
    {settings : Except Failure Settings} {exchanges : List Exchange}
    {result : Except Failure Verdicts} {check : Check} {request : Request}
    (course : AssessCourse base event settings exchanges result)
    (member : request ∈ exchanges.map Exchange.request)
    (complains : complainsOf check request = true) : (reported result).of check = .failure := by
  rcases List.mem_map.mp member with ⟨exchange, known, equal⟩
  subst equal
  cases course with
  | refused => cases known
  | accepted settingsAre accepted course => exact course.failed known complains

theorem takes_assess (event : Option Event) (source : Settings.Source) (station : Station)
    (session : Session) :
    (assess event source.job).TakesFrom { station with bot := name } session
      (AssessCourse station.service event (source.read name station session)) := by
  refine source.takesFrom_context ?_ fun unaccepted failure => .refused
  intro known context settingsAre accepted
  apply takes_check.weaken
  intro exchanges result course
  exact .accepted settingsAre accepted course

def publish (verdicts : Verdicts) : Job Verdicts := do
  Output.write verdicts.values
  Job.info "On-commit bot completed"
  return verdicts

def giveUp (event : Option Event) (failure : Failure) : Job Unit := do
  Job.error (complaint event failure)
  Output.write Verdicts.ofFailure.values

theorem Verdicts.areEncodable (verdicts : Verdicts) : Output.AreEncodable verdicts.values :=
  ⟨(Output.lines verdicts.values).text, rfl⟩

theorem run_eq_onFailure (event : Option Event) (settings : Job Settings) :
    run event settings =
      Job.named name ((assess event settings >>= publish).onFailure (giveUp event)) := by
  unfold run assess
  simp only [bind_assoc]
  rfl

/-- A run comes to what it has found, and to files with what it reports. -/
theorem run_eq (event : Option Event) (settings : Job Settings) (station : Station)
    (session : Session) :
    let assessed := assess event settings { station with bot := name } session
    ∃ log, run event settings station session = (assessed.1, { assessed.2 with
      log
      files := Output.recorded station.environment (reported assessed.1).values
        assessed.2.files }) := by
  rw [run_eq_onFailure]
  exact Output.reporting_run _ (fun result => (reported result).areEncodable) _ _ _ _

/-- Whatever becomes of a run, its complaints are those of the checks that it reports as failed. If
it returns, each of these is complained of once, in order, and the verdicts are those of the commits
and polls; if it fails, no conflict has been complained of. -/
theorem complaints_reported (event : Option Event) (source : Settings.Source) (station : Station)
    (answers : List Answer) (files : Files) :
    let ran := run event source.job station (.start answers files)
    (∀ verdicts, ran.1 = .ok verdicts →
      ∃ settings context commits pages polls complaints,
        source.read name station (.start answers files) = .ok settings ∧
        Context.ofEvent true event settings = .ok context ∧
        Checked station.service context commits pages polls complaints verdicts ∧
        Exchange.pair answers ran.2.requests =
          pages ++ complaints .signoff ++ complaints .signature ++ polls ++ complaints .conflict ∧
        ∀ check, (Exchange.pair answers ran.2.requests).filter
          (fun exchange => complainsOf check exchange.request) = complaints check) ∧
    (∀ failure, ran.1 = .error failure →
      ∀ request ∈ ran.2.requests, complainsOf .conflict request = false) ∧
    (∀ check, ∀ request ∈ ran.2.requests, complainsOf check request = true →
      (reported ran.1).of check = .failure) ∧
    ran.2.files = Output.recorded station.environment (reported ran.1).values files := by
  rcases takes_assess event source station (.start answers files) with ⟨exchanges, reached, course⟩
  rcases run_eq event source.job station (.start answers files) with ⟨log, equal⟩
  intro ran
  have ran_ : ran = _ := equal
  generalize assess event source.job { station with bot := name } (.start answers files) = assessed
    at reached course ran_
  rcases assessed with ⟨result, after⟩
  have told : exchanges = Exchange.pair answers after.requests := reached.eq_pair
  have requests : after.requests = exchanges.map Exchange.request := by
    rw [told, Exchange.map_request_pair]
  have failed (check : Check) (request : Request) (member : request ∈ after.requests)
      (complains : complainsOf check request = true) : (reported result).of check = .failure :=
    course.failed (requests ▸ member) complains
  rw [ran_]
  refine ⟨?_, ?_, failed, ?_⟩
  · intro verdicts returned
    cases returned
    cases course with
    | accepted settingsAre accepted course =>
        cases course with
        | checked checked =>
            refine ⟨_, _, _, _, _, _, settingsAre, accepted, checked, told.symm, ?_⟩
            intro check
            rw [← told]
            exact checked.filter check
  · intro failure raised request member
    cases raised
    cases complains : complainsOf .conflict request with
    | false => rfl
    | true => cases failed .conflict request member complains
  · rw [reached.files]
    rfl

end Steward.Bot.Commit
