import Steward.Proofs.Address
import Steward.Proofs.Bot.Signing

/-! What a run of the bot that verifies signing posts, and what it comes to. Whatever the answers,
its check run, its comment and its result tell the same. -/

namespace Steward.Bot.Signing

open Steward.Commit

/-! ## Posts -/

structure Posted (conclusion : Conclusion) (check : Exchange) : Prop where
  posts : check.request.posts "/check-runs" = true
  concludes : Event.valueAt check.request.body ["conclusion"] = .text conclusion.name
  accepted : Service.Accepts check.answer

/-- In sum, a run posts one check run on all commits and what follows from it, or it posts nothing
and has not passed. -/
inductive Summary (base now : String) (event : Option Event) (settings : Except Failure Settings) :
    Course Bool
  | unreported {exchanges : List Exchange} {result : Except Failure Bool}
      (unposted : ∀ exchange ∈ exchanges, ∀ ending, exchange.request.posts ending = false)
      (unpassed : result ≠ .ok true) : Summary base now event settings exchanges result
  | reported {known : Settings} {context : Context} {report : CheckReport} {answer : Answer}
      {pages rest : List Exchange} {commits : List Json} {result : Except Failure Bool}
      (settingsAre : settings = .ok known)
      (accepted : Context.ofEvent true event known = .ok context)
      (fetched : PageCourse base context.repository context.number standardPerPage 1 pages
        (.ok commits))
      (some_ : commits ≠ [])
      (success_iff : report.conclusion = .success ↔
        ∀ commit ∈ commits, IsSignedOff commit ∧ HasVerifiedSignature commit)
      (aftermath : Aftermath base context report.conclusion answer rest result) :
      Summary base now event settings (pages ++ checked base now context
        (Event.payloadValue event ["pull_request", "head", "sha"]) report answer :: rest) result

section

variable {base now : String} {event : Option Event} {settings : Except Failure Settings}
  {known : Settings} {context : Context} {head : Json} {report : CheckReport} {answer : Answer}
  {pages rest exchanges : List Exchange} {commits : List Json} {result : Except Failure Bool}

theorem unposted_pages {found : Except Failure (List Json)}
    (course : PageCourse base context.repository context.number standardPerPage 1 pages found) :
    ∀ exchange ∈ pages, ∀ ending, exchange.request.posts ending = false := by
  intro exchange member ending
  rcases course.asks exchange member with ⟨page, answer, rfl⟩
  rfl

theorem not_headless {pull : Json} {members : List (Wording × Json)}
    (headIs : Event.valueAt pull ["head"] = .object members)
    (there : (Json.lookup members "sha").isFalsy = false) : ¬Headless pull := by
  intro headless
  cases headless with
  | head absent =>
      rw [headIs] at absent
      have none_ : members = [] := by simpa [Json.isFalsy] using absent
      rw [none_] at there
      cases there
  | commit otherIs absent =>
      cases headIs.symm.trans otherIs
      cases absent.symm.trans there

theorem pull_ne_none {pull : Option Json} {head : List (Wording × Json)}
    (headIs : Event.valueAt (Context.part pull) ["head"] = .object head) : pull ≠ none := by
  intro none_
  rw [none_] at headIs
  cases headIs

theorem AssessCourse.summary (course : AssessCourse base now event settings exchanges result) :
    Summary base now event settings exchanges result := by
  cases course with
  | refused => exact .unreported nofun nofun
  | accepted settingsAre accepted course =>
      cases course with
      | headless | strange => exact .unreported nofun nofun
      | headed headIs there course =>
          cases course with
          | unfetched course | empty course => exact .unreported (unposted_pages course) nofun
          | judged course some_ judged =>
              cases judged with
              | unreadable =>
                  rw [List.append_nil]
                  exact .unreported (unposted_pages course) nofun
              | reported success_iff aftermath =>
                  rw [← Context.payloadValue_pull accepted (pull_ne_none headIs)]
                  exact .reported settingsAre accepted course some_ success_iff aftermath

theorem posts_checked :
    (checked base now context head report answer).request.posts "/check-runs" = true := by
  rw [checked, Request.posts_checkRun]
  rfl

namespace Aftermath

variable {conclusion : Conclusion}

theorem passes_iff (aftermath : Aftermath base context conclusion answer rest result) :
    result = .ok true ↔ conclusion = .success ∧ Service.Accepts answer := by
  cases aftermath with
  | refused refused => exact ⟨nofun, fun both => absurd both.2 refused⟩
  | passed accepted success => exact ⟨fun _ => ⟨success, accepted⟩, fun _ => rfl⟩
  | complained accepted failure => simp [failure]

theorem complains (aftermath : Aftermath base context conclusion answer rest result)
    (failed : conclusion = .failure ∧ Service.Accepts answer) : ∃ comment, rest = [comment] := by
  cases aftermath with
  | refused refused => exact absurd failed.2 refused
  | passed accepted success => cases success.symm.trans failed.1
  | complained => exact ⟨_, rfl⟩

theorem silent (aftermath : Aftermath base context conclusion answer rest result)
    (fine : ¬(conclusion = .failure ∧ Service.Accepts answer)) : rest = [] := by
  cases aftermath with
  | refused | passed => rfl
  | complained accepted failure => exact absurd ⟨failure, accepted⟩ fine

theorem fails (aftermath : Aftermath base context conclusion answer rest result)
    (refused : ¬Service.Accepts answer) : ∃ failure, result = .error failure := by
  cases aftermath with
  | refused => exact ⟨_, rfl⟩
  | passed accepted | complained accepted => exact absurd accepted refused

theorem posting_comments (aftermath : Aftermath base context conclusion answer rest result) :
    Exchange.posting "/comments" rest = rest := by
  cases aftermath with
  | refused | passed => rfl
  | complained =>
      apply Exchange.posting_cons_of_posts
      rw [Request.posts_comment]
      rfl

theorem posting_checkRuns (aftermath : Aftermath base context conclusion answer rest result) :
    Exchange.posting "/check-runs" rest = [] := by
  cases aftermath with
  | refused | passed => rfl
  | complained =>
      apply Exchange.posting_cons_of_not
      rw [Request.posts_comment]
      rfl

end Aftermath

theorem posting_checkRuns
    (fetched : PageCourse base context.repository context.number standardPerPage 1 pages
      (.ok commits))
    (aftermath : Aftermath base context report.conclusion answer rest result) :
    Exchange.posting "/check-runs" (pages ++ checked base now context head report answer :: rest) =
      [checked base now context head report answer] := by
  have unposted := unposted_pages fetched
  rw [Exchange.posting_append, Exchange.posting_eq_nil fun _ member => unposted _ member _,
    Exchange.posting_cons_of_posts posts_checked, aftermath.posting_checkRuns, List.nil_append]

theorem posting_comments
    (fetched : PageCourse base context.repository context.number standardPerPage 1 pages
      (.ok commits))
    (aftermath : Aftermath base context report.conclusion answer rest result) :
    Exchange.posting "/comments" (pages ++ checked base now context head report answer :: rest) =
      rest := by
  have unposted := unposted_pages fetched
  have other : (checked base now context head report answer).request.posts "/comments" = false := by
    rw [checked, Request.posts_checkRun]
    rfl
  rw [Exchange.posting_append, Exchange.posting_eq_nil fun _ member => unposted _ member _,
    Exchange.posting_cons_of_not other, aftermath.posting_comments, List.nil_append]

/-- The one check run is the one that counts. -/
theorem eq_checked {check : Exchange}
    (fetched : PageCourse base context.repository context.number standardPerPage 1 pages
      (.ok commits))
    (aftermath : Aftermath base context report.conclusion answer rest result)
    (member : check ∈ pages ++ checked base now context head report answer :: rest)
    (posts : check.request.posts "/check-runs" = true) :
    check = checked base now context head report answer := by
  have only := Exchange.mem_posting.mpr ⟨member, posts⟩
  rw [posting_checkRuns fetched aftermath] at only
  exact List.mem_singleton.mp only

theorem posted_iff {conclusion : Conclusion}
    (fetched : PageCourse base context.repository context.number standardPerPage 1 pages
      (.ok commits))
    (aftermath : Aftermath base context report.conclusion answer rest result) :
    (∃ check ∈ pages ++ checked base now context head report answer :: rest,
        Posted conclusion check) ↔
      report.conclusion = conclusion ∧ Service.Accepts answer := by
  have concludes : Event.valueAt (checked base now context head report answer).request.body
      ["conclusion"] = .text report.conclusion.name := rfl
  constructor
  · intro some_
    rcases some_ with ⟨check, member, posted⟩
    cases eq_checked fetched aftermath member posted.posts
    have same : Json.text report.conclusion.name = .text conclusion.name :=
      concludes.symm.trans posted.concludes
    exact ⟨Conclusion.name_injective (Json.eq_of_text same), posted.accepted⟩
  · intro both
    rcases both with ⟨rfl, accepted⟩
    exact ⟨_, List.mem_append_right _ List.mem_cons_self, posts_checked, concludes, accepted⟩

end

/-! ## Consistency -/

/-- What a check run is founded on: it is for the head of the event's own pull request, it comes
when all commits have been fetched, of which there are some, and it tells whether each of them
passes. -/
inductive Founded (base now : String) (event : Option Event) (settings : Except Failure Settings)
    (exchanges : List Exchange) (check : Exchange) : Prop
  | onCommits {known : Settings} {context : Context} {report : CheckReport}
      {pages rest : List Exchange} {commits : List Json} (settingsAre : settings = .ok known)
      (accepted : Context.ofEvent true event known = .ok context)
      (request : check.request = .checkRun base context.repository
        (checkRun (Event.payloadValue event ["pull_request", "head", "sha"]) report now))
      (split : exchanges = pages ++ check :: rest)
      (fetched : PageCourse base context.repository context.number standardPerPage 1 pages
        (.ok commits))
      (some_ : commits ≠ [])
      (success_iff : report.conclusion = .success ↔
        ∀ commit ∈ commits, IsSignedOff commit ∧ HasVerifiedSignature commit) :
      Founded base now event settings exchanges check

/-- The check run, the comment and the result of a run agree. -/
structure Consistent (base now : String) (event : Option Event) (settings : Except Failure Settings)
    (exchanges : List Exchange) (result : Except Failure Bool) : Prop where
  single : (Exchange.posting "/check-runs" exchanges).length ≤ 1
  founded : ∀ check ∈ Exchange.posting "/check-runs" exchanges,
    Founded base now event settings exchanges check
  passes : result = .ok true ↔ ∃ check ∈ exchanges, Posted .success check
  /-- A failure that was taken is complained of once, and then nothing more is asked. -/
  complains : (∃ check ∈ exchanges, Posted .failure check) →
    ∃ front comment, exchanges = front ++ [comment] ∧
      Exchange.posting "/comments" exchanges = [comment]
  silent : (¬∃ check ∈ exchanges, Posted .failure check) →
    Exchange.posting "/comments" exchanges = []
  headless {known : Settings} {context : Context} (settingsAre : settings = .ok known)
    (accepted : Context.ofEvent true event known = .ok context) (pulled : context.pull ≠ none)
    (headless : Headless (Event.payloadValue event ["pull_request"])) :
    exchanges = [] ∧ result = .ok false
  /-- A head that is there but no object cannot be looked into. -/
  malformed {known : Settings} {context : Context} (settingsAre : settings = .ok known)
    (accepted : Context.ofEvent true event known = .ok context) (pulled : context.pull ≠ none)
    (there : (Event.payloadValue event ["pull_request", "head"]).isFalsy = false)
    (strange : ∀ head, Event.payloadValue event ["pull_request", "head"] ≠ .object head) :
    exchanges = [] ∧ ∃ failure, result = .error failure
  /-- Where the pages hold no commits, nothing follows them. -/
  empty {known : Settings} {context : Context} {pages rest : List Exchange}
    (settingsAre : settings = .ok known) (accepted : Context.ofEvent true event known = .ok context)
    (split : exchanges = pages ++ rest)
    (fetched : PageCourse base context.repository context.number standardPerPage 1 pages (.ok [])) :
    rest = [] ∧ result = .ok false
  /-- A check run that is not taken makes the run fail. -/
  refused : ∀ check ∈ Exchange.posting "/check-runs" exchanges, ¬Service.Accepts check.answer →
    (∃ failure, result = .error failure) ∧ Exchange.posting "/comments" exchanges = []

section

variable {base now : String} {event : Option Event} {settings : Except Failure Settings}
  {known : Settings} {context : Context} {exchanges pages rest : List Exchange}
  {result : Except Failure Bool}

theorem AssessCourse.verified (course : AssessCourse base now event settings exchanges result)
    (settingsAre : settings = .ok known)
    (accepted : Context.ofEvent true event known = .ok context) :
    VerifyCourse base now context exchanges result := by
  cases course with
  | refused unaccepted => exact absurd accepted (unaccepted known context settingsAre)
  | accepted otherSettings otherAccepted course =>
      cases settingsAre.symm.trans otherSettings
      cases accepted.symm.trans otherAccepted
      exact course

theorem AssessCourse.headless (course : AssessCourse base now event settings exchanges result)
    (settingsAre : settings = .ok known)
    (accepted : Context.ofEvent true event known = .ok context) (some_ : context.pull ≠ none)
    (headless : Headless (Event.payloadValue event ["pull_request"])) :
    exchanges = [] ∧ result = .ok false := by
  rw [Context.payloadValue_pull accepted some_] at headless
  cases course.verified settingsAre accepted with
  | headless => exact ⟨rfl, rfl⟩
  | strange strange => exact absurd headless strange
  | headed headIs there => exact absurd headless (not_headless headIs there)

theorem AssessCourse.malformed (course : AssessCourse base now event settings exchanges result)
    (settingsAre : settings = .ok known)
    (accepted : Context.ofEvent true event known = .ok context) (some_ : context.pull ≠ none)
    (there : (Event.payloadValue event ["pull_request", "head"]).isFalsy = false)
    (strange : ∀ head, Event.payloadValue event ["pull_request", "head"] ≠ .object head) :
    exchanges = [] ∧ ∃ failure, result = .error failure := by
  rw [Context.payloadValue_pull accepted some_] at there strange
  cases course.verified settingsAre accepted with
  | headless headless =>
      cases headless with
      | head absent => cases absent.symm.trans there
      | commit headIs => exact absurd headIs (strange _)
  | strange => exact ⟨rfl, _, rfl⟩
  | headed headIs => exact absurd headIs (strange _)

theorem AssessCourse.empty (course : AssessCourse base now event settings exchanges result)
    (settingsAre : settings = .ok known)
    (accepted : Context.ofEvent true event known = .ok context) (split : exchanges = pages ++ rest)
    (fetched : PageCourse base context.repository context.number standardPerPage 1 pages (.ok [])) :
    rest = [] ∧ result = .ok false := by
  cases course.verified settingsAre accepted with
  | headless | strange => exact absurd (List.append_eq_nil_iff.mp split.symm).1 fetched.ne_nil
  | headed headIs there course =>
      cases course with
      | unfetched pageCourse =>
          rw [← List.append_nil exchanges] at split
          cases (pageCourse.unique fetched split).2
      | empty pageCourse =>
          rw [← List.append_nil exchanges] at split
          rcases pageCourse.unique fetched split with ⟨rfl, -⟩
          exact ⟨(List.append_cancel_left split).symm, rfl⟩
      | judged pageCourse some_ =>
          cases (pageCourse.unique fetched split).2
          exact absurd rfl some_

theorem Summary.consistent (summary : Summary base now event settings exchanges result)
    (course : AssessCourse base now event settings exchanges result) :
    Consistent base now event settings exchanges result := by
  cases summary with
  | unreported unposted unpassed =>
      have unchecked : Exchange.posting "/check-runs" exchanges = [] :=
        Exchange.posting_eq_nil fun exchange member => unposted exchange member _
      have uncommented : Exchange.posting "/comments" exchanges = [] :=
        Exchange.posting_eq_nil fun exchange member => unposted exchange member _
      have none_ {conclusion : Conclusion} : ¬∃ check ∈ exchanges, Posted conclusion check := by
        intro some_
        rcases some_ with ⟨check, member, posted⟩
        cases (unposted check member _).symm.trans posted.posts
      constructor
      case single => simp [unchecked]
      case founded => simp [unchecked]
      case passes => exact ⟨fun passed => absurd passed unpassed, fun some_ => absurd some_ none_⟩
      case complains => exact fun some_ => absurd some_ none_
      case silent => exact fun _ => uncommented
      case headless => exact course.headless
      case malformed => exact course.malformed
      case empty => exact course.empty
      case refused => simp [unchecked]
  | @reported _ context report answer pages rest _ _ settingsAre accepted fetched some_ success_iff
      aftermath =>
      generalize headIs :
        Event.payloadValue event ["pull_request", "head", "sha"] = head at course ⊢
      have one : Exchange.posting "/check-runs"
          (pages ++ checked base now context head report answer :: rest) =
            [checked base now context head report answer] := posting_checkRuns fetched aftermath
      have comments : Exchange.posting "/comments"
          (pages ++ checked base now context head report answer :: rest) = rest :=
        posting_comments fetched aftermath
      constructor
      case single => simp [one]
      case founded =>
        rw [one]
        intro check member
        cases List.mem_singleton.mp member
        exact .onCommits settingsAre accepted (by rw [headIs]; rfl) rfl fetched some_ success_iff
      case passes => rw [posted_iff fetched aftermath, aftermath.passes_iff]
      case complains =>
        rw [posted_iff fetched aftermath, comments]
        intro failed
        rcases aftermath.complains failed with ⟨comment, rfl⟩
        exact ⟨pages ++ [checked base now context head report answer], comment, by simp, rfl⟩
      case silent =>
        rw [posted_iff fetched aftermath, comments]
        exact aftermath.silent
      case headless => exact course.headless
      case malformed => exact course.malformed
      case empty => exact course.empty
      case refused =>
        rw [one, comments]
        intro check member refused
        cases List.mem_singleton.mp member
        exact ⟨aftermath.fails refused, aftermath.silent fun failed => refused failed.2⟩

end

/-- Whatever the answers, the check run, the comment and the result of a run agree, and so does what
is written down for later steps. -/
theorem run_consistent (event : Option Event) (source : Settings.Source) (station : Station)
    (answers : List Answer) (files : Files) :
    let ran := run event source.job station (.start answers files)
    Consistent station.service station.now event (source.read name station (.start answers files))
        (Exchange.pair answers ran.2.requests) ran.1 ∧
      ran.2.files = Output.recorded station.environment (reported ran.1) files := by
  rcases run_eq event source.job station (.start answers files) with
    ⟨noted, log, notedAnswers, notedFiles, notedRequests, equal⟩
  rcases takes_assess event source station noted with ⟨exchanges, reached, course⟩
  rw [source.read_eq_of_files notedFiles] at course
  intro ran
  have ran_ : ran = _ := equal
  generalize assess event source.job { station with bot := name } noted = assessed
    at reached course ran_
  rcases assessed with ⟨result, after⟩
  have told : exchanges = Exchange.pair answers after.requests := by
    have paired := reached.eq_pair_of_fresh notedRequests
    rwa [notedAnswers] at paired
  rw [ran_]
  constructor
  · rw [← told]
    exact course.summary.consistent course
  · rw [reached.files, notedFiles]
    rfl

end Steward.Bot.Signing
