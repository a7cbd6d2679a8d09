import Steward.Commit.Listing
import Steward.Proofs.Request

/-! The fetching of commits. It goes from page to page until one is not full, and comes to an end
because a page for which no answer is left is empty. -/

namespace Steward.Commit

def pageOf (answer : Answer) : Except Failure (List Json) := do (← Service.decode answer).elements

theorem pageOf_standard : pageOf .standard = .ok [] := by
  have empty : (pageOf .standard).toOption.map List.isEmpty = some true := by decide +kernel
  rcases Option.map_eq_some_iff.mp empty with ⟨commits, found, none_⟩
  rw [List.isEmpty_iff] at none_
  rw [Except.toOption_eq_some_iff.mp found, none_]

section

variable (base : String) (repository : Repository) (number perPage : Int)

def paged (page : Int) (answer : Answer) : Exchange :=
  ⟨.commits base repository number perPage page, answer⟩

/-- The exchanges from a page on, with what they come to: all commits, or the failure of a page. -/
inductive PageCourse : Int → Course (List Json)
  | last {page : Int} {answer : Answer} {commits : List Json}
      (read : pageOf answer = .ok commits) (short : (commits.length : Int) < perPage) :
      PageCourse page [paged base repository number perPage page answer] (.ok commits)
  | fails {page : Int} {answer : Answer} {failure : Failure}
      (failed : pageOf answer = .error failure) :
      PageCourse page [paged base repository number perPage page answer] (.error failure)
  | more {page : Int} {answer : Answer} {commits : List Json} {exchanges : List Exchange}
      {result : Except Failure (List Json)}
      (read : pageOf answer = .ok commits) (full : ¬(commits.length : Int) < perPage)
      (rest : PageCourse (page + 1) exchanges result) :
      PageCourse page (paged base repository number perPage page answer :: exchanges)
        (result.map (commits ++ ·))

end

section

variable {base : String} {repository : Repository} {number perPage page : Int}
  {exchanges : List Exchange}

variable {result : Except Failure (List Json)}

theorem PageCourse.asks
    (course : PageCourse base repository number perPage page exchanges result) :
    ∀ exchange ∈ exchanges, ∃ page answer,
      exchange = paged base repository number perPage page answer := by
  induction course with
  | last | fails =>
      intro exchange member
      exact ⟨_, _, List.mem_singleton.mp member⟩
  | more read full rest induction => exact List.forall_mem_cons.mpr ⟨⟨_, _, rfl⟩, induction⟩

theorem PageCourse.ne_nil
    (course : PageCourse base repository number perPage page exchanges result) :
    exchanges ≠ [] := by
  cases course <;> exact List.cons_ne_nil _ _

end

theorem pageOf_of_decode {answer : Answer} {batch : Json}
    (decoded : Service.decode answer = .ok batch) : pageOf answer = batch.elements := by
  rw [pageOf, decoded, Except.ok_bind]

section

variable {station : Station} {repository : Repository} {number perPage : Int}

/-- A full page is one that the service has sent: there was an answer left for it. -/
theorem length_drop_lt_of_full {answers : List Answer} {commits : List Json}
    (positive : 0 < perPage) (read : pageOf (Answer.inTurn answers 0) = .ok commits)
    (full : ¬(commits.length : Int) < perPage) : (answers.drop 1).length < answers.length := by
  cases answers with
  | nil =>
      cases pageOf_standard.symm.trans read
      exact absurd positive full
  | cons first rest => simp

/-- The answers tell which page is the last, and what it comes to. -/
theorem PageCourse.unique {base : String} {page : Int} {first second rest others : List Exchange}
    {result found : Except Failure (List Json)}
    (course : PageCourse base repository number perPage page first result)
    (other : PageCourse base repository number perPage page second found)
    (same : first ++ rest = second ++ others) : first = second ∧ result = found := by
  induction course generalizing second found with
  | last read short =>
      cases other with
      | last otherRead =>
          cases same
          cases read.symm.trans otherRead
          exact ⟨rfl, rfl⟩
      | fails otherFailed =>
          cases same
          cases read.symm.trans otherFailed
      | more otherRead full =>
          cases same
          cases read.symm.trans otherRead
          exact absurd short full
  | fails failed =>
      cases other with
      | last otherRead | more otherRead =>
          cases same
          cases failed.symm.trans otherRead
      | fails otherFailed =>
          cases same
          cases failed.symm.trans otherFailed
          exact ⟨rfl, rfl⟩
  | more read full course induction =>
      cases other with
      | last otherRead short =>
          cases same
          cases read.symm.trans otherRead
          exact absurd short full
      | fails otherFailed =>
          cases same
          cases read.symm.trans otherFailed
      | more otherRead otherFull otherCourse =>
          rcases List.cons.inj same with ⟨first, sameRest⟩
          cases first
          cases read.symm.trans otherRead
          rcases induction otherCourse sameRest with ⟨rfl, rfl⟩
          exact ⟨rfl, rfl⟩

/-- With more pages to go than there are answers left, the last page is reached. -/
theorem takesFrom_pagesFrom (positive : 0 < perPage) (bound : Nat) (session : Session) (page : Int)
    (before : List Json) (few : session.answers.length < bound) :
    (pagesFrom repository number perPage bound page before).TakesFrom station session
      fun exchanges result =>
        ∃ found, PageCourse station.service repository number perPage page exchanges found ∧
          result = found.map (before ++ ·) := by
  induction bound generalizing session page before with
  | zero => omega
  | succ bound induction =>
      unfold pagesFrom
      apply Job.TakesFrom.bindFrom (Service.takes_listCommits _ _ _ _ session)
      · intro exchanges batch middle reached asked
        rcases asked with ⟨answer, rfl, decoded⟩
        have read := pageOf_of_decode decoded.symm
        apply Job.TakesFrom.lift
        · intro commits found
          rw [found] at read
          by_cases short : (commits.length : Int) < perPage
          · simp only [if_pos short]
            exact Job.Takes.pure ⟨.ok commits, .last read short, rfl⟩ middle
          · simp only [if_neg short]
            have told : answer = Answer.inTurn session.answers 0 := reached.answer_eq
            have fewer := length_drop_lt_of_full positive (told ▸ read) short
            have left : middle.answers.length < bound := by
              rw [reached.answers, List.length_singleton]
              omega
            apply (induction middle (page + 1) (before ++ commits) left).weaken
            intro exchanges result course
            rcases course with ⟨found, course, rfl⟩
            refine ⟨_, .more read short course, ?_⟩
            cases found <;> simp [Except.map]
        · intro failure failed
          rw [failed] at read
          exact ⟨.error failure, .fails read, rfl⟩
      · intro exchanges failure asked
        rcases asked with ⟨answer, rfl, failed⟩
        refine ⟨.error failure, .fails ?_, rfl⟩
        rw [pageOf, ← failed, Except.error_bind]

theorem takes_fetchAll (positive : 0 < perPage) :
    (fetchAll repository number perPage).Takes station
      (PageCourse station.service repository number perPage 1) := by
  intro session
  unfold fetchAll
  refine .answersLeft (.bind (takesFrom_pagesFrom positive _ session 1 [] (Nat.lt_succ_self _))
    ?_ ?_)
  · intro exchanges commits course
    rcases course with ⟨found, course, equal⟩
    cases found with
    | error failure => cases equal
    | ok others =>
        cases equal
        exact .info (.pure (Course.after_end.mpr course))
  · intro exchanges failure course
    rcases course with ⟨found, course, equal⟩
    cases found with
    | ok commits => cases equal
    | error other =>
        cases equal
        exact course

/-! ## Bounds -/

/-- More pages to go than are needed make no difference. -/
theorem pagesFrom_succ (positive : 0 < perPage) (bound : Nat) (session : Session) (page : Int)
    (before : List Json) (few : session.answers.length < bound) :
    pagesFrom repository number perPage (bound + 1) page before station session =
      pagesFrom repository number perPage bound page before station session := by
  induction bound generalizing session page before with
  | zero => omega
  | succ bound induction =>
      rw [pagesFrom, pagesFrom]
      apply Job.bind_run_next
      intro batch middle ran
      apply Job.bind_run_next
      intro commits after lifted
      by_cases short : (commits.length : Int) < perPage
      · rw [if_pos short, if_pos short]
      · rw [if_neg short, if_neg short]
        apply induction
        rcases Service.takes_listCommits repository number perPage page session with
          ⟨_, reached, answer, rfl, decoded⟩
        rw [ran] at reached decoded
        have told : answer = Answer.inTurn session.answers 0 := reached.answer_eq
        have elements : batch.elements = .ok commits := congrArg Prod.fst lifted
        have read := (pageOf_of_decode decoded.symm).trans elements
        have fewer := length_drop_lt_of_full positive (told ▸ read) short
        have kept : middle = after := congrArg Prod.snd lifted
        rw [← kept, reached.answers, List.length_singleton]
        omega

theorem pagesFrom_eq (positive : 0 < perPage) {bound more : Nat} (session : Session) (page : Int)
    (before : List Json) (few : session.answers.length < bound) (fewer : bound ≤ more) :
    pagesFrom repository number perPage more page before station session =
      pagesFrom repository number perPage bound page before station session := by
  induction fewer with
  | refl => rfl
  | step fewer induction =>
      rw [pagesFrom_succ positive _ session page before (Nat.lt_of_lt_of_le few fewer), induction]

/-- All commits, with a bound on the pages that does not come from the answers. -/
def fetchWithin (repository : Repository) (number perPage : Int) (bound : Nat) :
    Job (List Json) := do
  let commits ← pagesFrom repository number perPage bound 1 []
  Job.info s!"Fetched {commits.length} commits for PR #{number}"
  return commits

theorem fetchAll_run (positive : 0 < perPage) {bound : Nat} (session : Session)
    (few : session.answers.length < bound) :
    fetchAll repository number perPage station session =
      fetchWithin repository number perPage bound station session := by
  have same : pagesFrom repository number perPage bound 1 [] station session =
      pagesFrom repository number perPage (session.answers.length + 1) 1 [] station session :=
    pagesFrom_eq positive session 1 [] (Nat.lt_succ_self _) few
  exact Job.bind_run_congr _ same.symm

end

end Steward.Commit
