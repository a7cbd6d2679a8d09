import Steward.Proofs.Address
import Steward.Proofs.Bot.Commit
import Steward.Proofs.Bot.Ledger
import Steward.Proofs.Bot.Review
import Steward.Proofs.Context

/-! Two bots in a row: one checks the commits of a pull request, the other labels it by what the
first has written down. A label that lets the pull request pass comes from a run without a fault and
from nothing else, whatever the file held before. -/

namespace Steward.Bot.Pipeline

open Steward.Commit

/-! ## Faultless runs -/

section

variable {base : String} {repository : Repository} {number : Int} {exchanges : List Exchange}

def polls (base : String) (repository : Repository) (number : Int) (exchanges : List Exchange) :
    List Exchange :=
  exchanges.filter fun exchange => exchange.request.method == "GET" &&
    exchange.request.url == (Request.pull base repository number).url

/-- A pull request has nothing to revise: all of its commits are signed off and verified, and if the
service has told whether it can be merged, it can. -/
structure Faultless (base : String) (repository : Repository) (number : Int)
    (exchanges : List Exchange) : Prop where
  signed : ∃ pages rest commits, exchanges = pages ++ rest ∧
    PageCourse base repository number standardPerPage 1 pages (.ok commits) ∧
    ∀ commit ∈ commits, IsSignedOff commit ∧ HasVerifiedSignature commit
  mergeable : ∀ mergeable,
    Conflict.firstKnown (polls base repository number exchanges) = some mergeable →
      mergeable = .bool true

theorem polls_append (first second : List Exchange) :
    polls base repository number (first ++ second) =
      polls base repository number first ++ polls base repository number second :=
  List.filter_append first second

theorem polls_pages {pages : List Exchange} {commits : List Json}
    (fetched : PageCourse base repository number standardPerPage 1 pages (.ok commits)) :
    polls base repository number pages = [] := by
  unfold polls
  rw [List.filter_eq_nil_iff]
  intro exchange member
  rcases fetched.asks exchange member with ⟨page, answer, rfl⟩
  have other : (Request.commits base repository number standardPerPage page).url ≠
      (Request.pull base repository number).url :=
    Request.url_commits_ne_url_pull standardPerPage page
  simp [paged, other]

theorem polls_polls {left : Nat} {result : Except Failure Bool}
    (course : Conflict.PollCourse base repository number left exchanges result) :
    polls base repository number exchanges = exchanges := by
  unfold polls
  rw [List.filter_eq_self]
  intro exchange member
  rcases course.asks exchange member with ⟨answer, rfl⟩
  simp [Conflict.polled, Request.pull, Request.get]

theorem polls_complaints {context : Context} {check : Check} {conclusion : Conclusion}
    (complaints : Commit.Complaints base context check conclusion exchanges) :
    polls base repository number exchanges = [] := by
  cases complaints <;> rfl

end

section

variable {base : String} {context : Context} {commits : List Json} {pages asked : List Exchange}
  {complaints : Check → List Exchange} {verdicts : Commit.Verdicts}

theorem polls_checked
    (checked : Commit.Checked base context commits pages asked complaints verdicts) :
    polls base context.repository context.number
      (pages ++ complaints .signoff ++ complaints .signature ++ asked ++ complaints .conflict) =
        asked := by
  rcases checked.polled with ⟨conflicts, course⟩
  simp only [polls_append, polls_pages checked.fetched, polls_polls course,
    polls_complaints (checked.complains _), List.nil_append, List.append_nil]

/-- Every check succeeds exactly if there is nothing to revise. -/
theorem faultless_iff
    (checked : Commit.Checked base context commits pages asked complaints verdicts) :
    Faultless base context.repository context.number
        (pages ++ complaints .signoff ++ complaints .signature ++ asked ++ complaints .conflict) ↔
      ∀ check, verdicts.of check = .success := by
  constructor
  · intro faultless
    rcases faultless.signed with ⟨front, rest, others, split, fetched, signed⟩
    have same : commits = others := by
      simp only [List.append_assoc] at split
      cases (checked.fetched.unique fetched split).2
      rfl
    subst same
    intro check
    cases check with
    | signoff => exact checked.signoff.mpr fun commit member => (signed commit member).1
    | signature => exact checked.signature.mpr fun commit member => (signed commit member).2
    | conflict =>
        cases conclusion : verdicts.of .conflict with
        | success => rfl
        | failure =>
            rcases checked.conflict.mp conclusion with ⟨mergeable, known, conflicts⟩
            refine absurd (faultless.mergeable mergeable ?_) conflicts
            rw [polls_checked checked, known]
  · intro succeeds
    constructor
    · refine ⟨pages, _, commits, by simp only [List.append_assoc]; rfl, checked.fetched, ?_⟩
      intro commit member
      exact ⟨checked.signoff.mp (succeeds .signoff) commit member,
        checked.signature.mp (succeeds .signature) commit member⟩
    · intro mergeable known
      rw [polls_checked checked] at known
      by_contra conflicts
      have failed := checked.conflict.mpr ⟨mergeable, known, conflicts⟩
      cases (succeeds .conflict).symm.trans failed

end

/-! ## Reports -/

def key : Check → String
  | .signoff => "dco"
  | .signature => "gpg"
  | .conflict => "merge_conflict"

def reportsIn (files : Files) (path : String) : Review.Reports where
  signoff := (files.file? path).bind (Output.told (key .signoff))
  signature := (files.file? path).bind (Output.told (key .signature))
  conflict := (files.file? path).bind (Output.told (key .conflict))

def passedVariables (reports : Review.Reports) : List (String × String) :=
  [("DCO_PASSED", reports.signoff), ("GPG_PASSED", reports.signature),
    ("MERGE_CONFLICT", reports.conflict)].filterMap fun report => report.2.map (report.1, ·)

def passedOn (station : Station) (reports : Review.Reports) : Station :=
  { station with environment := station.environment.extend (passedVariables reports) }

def reportsOf (verdicts : Commit.Verdicts) : Review.Reports :=
  ⟨some verdicts.signoff.name, some verdicts.signature.name, some verdicts.conflict.name⟩

theorem told_values (verdicts : Commit.Verdicts) (check : Check) :
    Output.told (key check) (Text.Utf8.encode (Output.lines verdicts.values).shown) =
      some (verdicts.of check).name := by
  have unbroken : ∀ value ∈ verdicts.values, Output.feed ∉ Output.entry value := by
    rcases verdicts with ⟨signoff, signature, conflict⟩
    cases signoff <;> cases signature <;> cases conflict <;> decide +kernel
  rw [Output.told, Output.splitOn_lines unbroken]
  rcases verdicts with ⟨signoff, signature, conflict⟩
  cases check <;> cases signoff <;> cases signature <;> cases conflict <;> decide +kernel

theorem reportsIn_recorded {environment : Environment} {path : String} {files : Files}
    (verdicts : Commit.Verdicts) (named : environment.nonEmpty? "GITHUB_OUTPUT" = some path)
    (writable : files.IsWritable path) (ended : Output.IsEnded ((files.file? path).getD [])) :
    reportsIn (Output.recorded environment verdicts.values files) path = reportsOf verdicts := by
  have told (check : Check) :
      ((Output.recorded environment verdicts.values files).file? path).bind
        (Output.told (key check)) = some (verdicts.of check).name :=
    Output.told_recorded named writable ended (List.cons_ne_nil _ _) (told_values verdicts check)
  simp only [reportsIn, told]
  rfl

theorem ofEnvironment_passedOn (station : Station) (verdicts : Commit.Verdicts) :
    Review.Reports.ofEnvironment (passedOn station (reportsOf verdicts)).environment =
      reportsOf verdicts := rfl

theorem label_reportsOf_iff {verdicts : Commit.Verdicts} :
    (reportsOf verdicts).label = Label.needsReview ↔ ∀ check, verdicts.of check = .success := by
  rw [Review.Reports.label_eq_needsReview_iff]
  constructor
  · intro same check
    injection same with signoff signature conflict
    cases check with
    | signoff => exact Conclusion.name_injective (Option.some.inj signoff)
    | signature => exact Conclusion.name_injective (Option.some.inj signature)
    | conflict => exact Conclusion.name_injective (Option.some.inj conflict)
  · intro succeeds
    have signoff : verdicts.signoff = .success := succeeds .signoff
    have signature : verdicts.signature = .success := succeeds .signature
    have conflict : verdicts.conflict = .success := succeeds .conflict
    rw [reportsOf, signoff, signature, conflict]
    rfl

/-! ## Both bots -/

theorem reported_succeeds_iff {base : String} {event : Option Event} {known : Settings}
    {context : Context} {settings : Except Failure Settings} {exchanges : List Exchange}
    {result : Except Failure Commit.Verdicts}
    (course : Commit.AssessCourse base event settings exchanges result)
    (accepted : Context.ofEvent true event known = .ok context) :
    (∀ check, (Commit.reported result).of check = .success) ↔
      (∃ verdicts, result = .ok verdicts) ∧
        Faultless base context.repository context.number exchanges := by
  cases result with
  | error failure =>
      constructor
      · intro succeeds
        cases succeeds .signoff
      · intro both
        rcases both.1 with ⟨verdicts, same⟩
        cases same
  | ok verdicts =>
      cases course with
      | @accepted other otherContext _ _ _ otherAccepted course =>
          have same := Context.ofEvent_settings true event known other
          rw [accepted, otherAccepted] at same
          cases same
          cases course with
          | checked checked =>
              have iff_ := faultless_iff checked
              constructor
              · intro succeeds
                exact ⟨⟨verdicts, rfl⟩, iff_.mpr succeeds⟩
              · intro both
                exact iff_.mp both.2

/-- The label lets a pull request pass exactly if the checks of its commits came to an end without a
fault. In every other case, wherever a run has failed and whatever earlier runs have left in the
file, it is to be revised. -/
theorem needsReview_iff_faultless {event : Option Event} {known : Settings} {context : Context}
    {checking preparing : Settings.Source} {station other : Station}
    {path : String} {answers later : List Answer} {files others : Files}
    (accepted : Context.ofEvent true event known = .ok context)
    (pulled : context.pull ≠ none)
    (assignees : Review.AreNamed (Event.payloadValue event ["pull_request", "assignees"]))
    (named : station.environment.nonEmpty? "GITHUB_OUTPUT" = some path)
    (writable : files.IsWritable path) (ended : Output.IsEnded ((files.file? path).getD [])) :
    let checked := Commit.run event checking.job station (.start answers files)
    let passed := passedOn other (reportsIn checked.2.files path)
    let prepared := Review.run event preparing.job passed (.start later others)
    preparing.read Review.name passed (.start later others) = .ok known →
    ∃ label answer, prepared.1 = .ok label ∧
      Exchange.posting "/labels" (Exchange.pair later prepared.2.requests) =
        [⟨.labelAddition other.service context.repository context.number [label], answer⟩] ∧
      (label = Label.needsReview ∨ label = Label.needsRevision) ∧
      (label = Label.needsReview ↔ (∃ verdicts, checked.1 = .ok verdicts) ∧
        Faultless station.service context.repository context.number
          (Exchange.pair answers checked.2.requests)) := by
  intro checked passed prepared settingsAre
  rcases Commit.takes_assess event checking station (.start answers files) with
    ⟨exchanges, reached, course⟩
  rcases Commit.run_eq event checking.job station (.start answers files) with ⟨log, equal⟩
  have checked_ : checked = _ := equal
  generalize Commit.assess event checking.job { station with bot := Commit.name }
    (.start answers files) = assessed at reached course checked_
  rcases assessed with ⟨result, after⟩
  have told : exchanges = Exchange.pair answers after.requests := reached.eq_pair
  have reports : Review.Reports.ofEnvironment passed.environment =
      reportsOf (Commit.reported result) := by
    have filesAre : after.files = files := reached.files
    have recorded := reportsIn_recorded (Commit.reported result) named writable ended
    rw [← ofEnvironment_passedOn other, ← recorded]
    simp only [passed, checked_, filesAre]
  rcases Context.ofEvent_pull accepted with none_ | ⟨pull, pullIs, holds⟩
  · exact absurd none_ pulled
  rw [Context.payloadValue_pull accepted pulled, holds.pullIs] at assignees
  rcases Review.takes_run settingsAre accepted holds assignees with
    ⟨asked, reachedLater, courseLater⟩
  rcases courseLater.labels with ⟨returned, answer, posted⟩
  refine ⟨_, answer, returned, ?_, Review.Reports.label_eq_or _, ?_⟩
  · rw [← reachedLater.eq_pair]
    exact posted
  · rw [reports, label_reportsOf_iff, reported_succeeds_iff course accepted, checked_, told]

def openContext : Context where
  repository := ⟨"hiero", "sdk"⟩
  event := "pull_request"
  number := 8
  issue := none
  pull := some (.object [("number", .integer 8)])
  comment := none
  settings := .standard

/-- The successes of an earlier run do not make up for commits that could not be fetched. -/
theorem needsReview_iff_faultless_stale :
    let checked := Commit.run (some opening) (Settings.Source.given .standard).job
      recorder (.start [.refusal "Connection refused"] ledger)
    let passed := passedOn recorder (reportsIn checked.2.files ledgerPath)
    let prepared := Review.run (some opening) (Settings.Source.given .standard).job passed
      (.start [] [])
    ledger.IsWritable ledgerPath ∧ Output.IsEnded ((ledger.file? ledgerPath).getD []) ∧
      ∃ label answer, prepared.1 = .ok label ∧
        Exchange.posting "/labels" (Exchange.pair [] prepared.2.requests) =
          [⟨.labelAddition recorder.service openContext.repository openContext.number [label],
            answer⟩] ∧
        (label = Label.needsReview ∨ label = Label.needsRevision) ∧
        (label = Label.needsReview ↔ (∃ verdicts, checked.1 = .ok verdicts) ∧
          Faultless recorder.service openContext.repository openContext.number
            (Exchange.pair [.refusal "Connection refused"] checked.2.requests)) := by
  have accepted : Context.ofEvent true (some opening) .standard = .ok openContext := rfl
  have ended : Output.IsEnded ((ledger.file? ledgerPath).getD []) := .inr (by decide +kernel)
  exact ⟨ledger_isWritable, ended,
    needsReview_iff_faultless accepted nofun (.inl rfl) rfl ledger_isWritable ended rfl⟩

end Steward.Bot.Pipeline
