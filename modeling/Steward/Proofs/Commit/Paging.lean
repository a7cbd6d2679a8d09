import Steward.Proofs.Commit.Listing

/-! Commits that are answered page by page. Nothing is lost between two pages and nothing is asked
twice; the first page that is not full is the last, also where this makes it an empty one. -/

namespace Steward.Commit

def pageAt (size : Nat) (commits : List Json) (turn : Nat) : List Json :=
  (commits.drop (turn * size)).take size

example : pageAt 2 [.integer 1, .integer 2, .integer 3] 1 = [.integer 3] := rfl

theorem length_pageAt (size : Nat) (commits : List Json) (turn : Nat) :
    (pageAt size commits turn).length = min size (commits.length - turn * size) := by
  rw [pageAt, List.length_take, List.length_drop]

/-- The commits of some pages, and those of the next one. -/
theorem take_append_pageAt (size : Nat) (commits : List Json) (turn : Nat) :
    commits.take (turn * size) ++ pageAt size commits turn = commits.take ((turn + 1) * size) := by
  rw [pageAt, Nat.succ_mul, List.take_add]

theorem pageOf_of_carries {answer : Answer} {items : List Json}
    (carries : Service.Carries answer (.list items)) : pageOf answer = .ok items :=
  pageOf_of_decode (Service.decode_eq_ok_iff.mpr carries)

theorem pageOf_of_denies {answer : Answer} {failure : Failure}
    (denies : Service.Denies answer failure) : pageOf answer = .error failure := by
  rw [pageOf, Service.decode_eq_error_iff.mpr denies, Except.error_bind]

/-- The page that is asked for in a turn gets the answer of this turn. -/
theorem told_paged {base : String} {repository : Repository} {number perPage page : Int}
    {answer : Answer} {rest : List Exchange} {answers : List Answer} (turn : Nat)
    (told : paged base repository number perPage page answer :: rest =
      Exchange.pair (answers.drop turn)
        ((paged base repository number perPage page answer :: rest).map Exchange.request)) :
    answer = Answer.inTurn answers turn ∧
      rest = Exchange.pair (answers.drop (turn + 1)) (rest.map Exchange.request) := by
  rcases Exchange.told_cons told with ⟨answered, others⟩
  rw [Answer.inTurn_drop, Nat.add_zero] at answered
  rw [List.drop_drop] at others
  exact ⟨answered, others⟩

def pageRequests (base : String) (repository : Repository) (number perPage page : Int)
    (count : Nat) : List Request :=
  (List.range count).map fun turn : Nat =>
    Request.commits base repository number perPage (page + turn)

namespace PageCourse

variable {base : String} {repository : Repository} {number : Int} {exchanges : List Exchange}
  {result : Except Failure (List Json)} {answers : List Answer}

/-- Pages are asked for by their numbers, one after the other. -/
theorem requests {perPage page : Int}
    (course : PageCourse base repository number perPage page exchanges result) :
    exchanges.map Exchange.request =
      pageRequests base repository number perPage page exchanges.length := by
  induction course with
  | last | fails => simp [paged, pageRequests]
  | more read full rest induction =>
      rw [List.map_cons, induction, pageRequests, pageRequests, List.length_cons,
        List.range_succ_eq_map, List.map_cons, List.map_map]
      congr 1
      · simp [paged]
      · apply List.map_congr_left
        intro turn _
        simp only [Function.comp, Int.natCast_succ]
        congr 1
        omega

/-- There is at most one page without an answer left for it, since it is empty. -/
theorem length_le {perPage page : Int} (positive : 0 < perPage)
    (course : PageCourse base repository number perPage page exchanges result)
    (told : exchanges = Exchange.pair answers (exchanges.map Exchange.request)) :
    exchanges.length ≤ answers.length + 1 := by
  induction course generalizing answers with
  | last | fails => simp
  | more read full rest induction =>
      rcases told_paged 0 told with ⟨rfl, others⟩
      have fewer := length_drop_lt_of_full positive read full
      have bound : _ ≤ (answers.drop 1).length + 1 := induction others
      rw [List.length_cons]
      omega

variable {page : Int} {size turn : Nat} {commits : List Json}

/-- The pages of a list are gone through as long as they are full. -/
theorem passes (course : PageCourse base repository number size page exchanges result)
    (told : exchanges = Exchange.pair answers (exchanges.map Exchange.request))
    (inside : turn * size ≤ commits.length)
    (pages : ∀ earlier < turn,
      pageOf (Answer.inTurn answers earlier) = .ok (pageAt size commits earlier)) :
    ∃ front rest found, exchanges = front ++ rest ∧ front.length = turn ∧
      rest = Exchange.pair (answers.drop turn) (rest.map Exchange.request) ∧
      PageCourse base repository number size (page + turn) rest found ∧
      result = found.map (commits.take (turn * size) ++ ·) := by
  induction turn with
  | zero =>
      refine ⟨[], exchanges, result, rfl, rfl, told, by simpa using course, ?_⟩
      cases result <;> simp [Except.map]
  | succ turn induction =>
      rw [Nat.succ_mul] at inside
      rcases induction (by omega) fun earlier before => pages earlier (by omega) with
        ⟨front, rest, found, rfl, length, toldLater, later, rfl⟩
      have page := pages turn (Nat.lt_succ_self _)
      cases later with
      | last read short =>
          rcases told_paged _ toldLater with ⟨rfl, -⟩
          cases page.symm.trans read
          rw [length_pageAt] at short
          omega
      | fails failed =>
          rcases told_paged _ toldLater with ⟨rfl, -⟩
          cases page.symm.trans failed
      | @more _ answer others exchanges found read full rest =>
          rcases told_paged _ toldLater with ⟨rfl, toldRest⟩
          cases page.symm.trans read
          refine ⟨front ++ [_], exchanges, found, List.append_cons _ _ _, by simp [length],
            toldRest, ?_, ?_⟩
          · rw [Int.natCast_succ, ← Int.add_assoc]
            exact rest
          · rw [← take_append_pageAt]
            cases found <;> simp [Except.map]

/-- Where every page is answered, the list is given back, after one request more than there are full
pages in it. -/
theorem restores (positive : 0 < size)
    (course : PageCourse base repository number size page exchanges result)
    (told : exchanges = Exchange.pair answers (exchanges.map Exchange.request))
    (pages : ∀ turn ≤ commits.length / size,
      pageOf (Answer.inTurn answers turn) = .ok (pageAt size commits turn)) :
    result = .ok commits ∧ exchanges.length = commits.length / size + 1 := by
  have inside : commits.length / size * size ≤ commits.length := Nat.div_mul_le_self _ _
  have left : commits.length - commits.length / size * size < size := by
    rw [← Nat.mod_eq_sub_div_mul]
    exact Nat.mod_lt _ positive
  have page := pages _ (Nat.le_refl _)
  rcases course.passes told inside fun earlier before => pages earlier (Nat.le_of_lt before) with
    ⟨front, rest, found, rfl, length, toldLater, later, rfl⟩
  cases later with
  | last read short =>
      rcases told_paged _ toldLater with ⟨rfl, -⟩
      cases page.symm.trans read
      have whole : commits.take ((commits.length / size + 1) * size) = commits := by
        apply List.take_of_length_le
        rw [Nat.succ_mul]
        omega
      exact ⟨by rw [Except.map, take_append_pageAt, whole], by simp [length]⟩
  | fails failed =>
      rcases told_paged _ toldLater with ⟨rfl, -⟩
      cases page.symm.trans failed
  | more read full rest =>
      rcases told_paged _ toldLater with ⟨rfl, -⟩
      cases page.symm.trans read
      rw [length_pageAt] at full
      omega

/-- The failure of a page is the result, and no page is asked for after it. -/
theorem fails_at {failure : Failure}
    (course : PageCourse base repository number size page exchanges result)
    (told : exchanges = Exchange.pair answers (exchanges.map Exchange.request))
    (inside : turn * size ≤ commits.length)
    (pages : ∀ earlier < turn,
      pageOf (Answer.inTurn answers earlier) = .ok (pageAt size commits earlier))
    (failed : pageOf (Answer.inTurn answers turn) = .error failure) :
    result = .error failure ∧ exchanges.length = turn + 1 := by
  rcases course.passes told inside pages with
    ⟨front, rest, found, rfl, length, toldLater, later, rfl⟩
  cases later with
  | last read | more read =>
      rcases told_paged _ toldLater with ⟨rfl, -⟩
      cases failed.symm.trans read
  | fails failedToo =>
      rcases told_paged _ toldLater with ⟨rfl, -⟩
      cases failed.symm.trans failedToo
      exact ⟨rfl, by simp [length]⟩

end PageCourse

/-! ## Runs -/

/-- A list of commits that is answered page by page comes back as it is, and takes one request more
than it has full pages. If one of these pages fails, so does the run, with no request after it.
Whatever is answered, the pages come to an end once the answers have: that there is a bound on them
makes no difference. -/
theorem fetchAll_restores_pages {size : Nat} (positive : 0 < size) (repository : Repository)
    (number : Int) (station : Station) (session : Session) :
    let run := fetchAll repository number size station session
    let asked (count : Nat) :=
      session.requests ++ pageRequests station.service repository number size 1 count
    let Answered (commits : List Json) (turn : Nat) : Prop :=
      Service.Carries (Answer.inTurn session.answers turn) (.list (pageAt size commits turn))
    (∀ commits, (∀ turn ≤ commits.length / size, Answered commits turn) →
      run.1 = .ok commits ∧ run.2.requests = asked (commits.length / size + 1)) ∧
    (∀ commits turn failure, turn ≤ commits.length / size →
      (∀ earlier < turn, Answered commits earlier) →
      Service.Denies (Answer.inTurn session.answers turn) failure →
      run.1 = .error failure ∧ run.2.requests = asked (turn + 1)) ∧
    (∃ count ≤ session.answers.length + 1, run.2.requests = asked count) ∧
    ∀ bound > session.answers.length,
      fetchWithin repository number size bound station session = run := by
  intro run asked Answered
  have fewest : (0 : Int) < size := Int.natCast_pos.mpr positive
  rcases takes_fetchAll fewest session with ⟨exchanges, reached, course⟩
  have requests : run.2.requests = asked exchanges.length := by
    rw [reached.requests, course.requests]
  refine ⟨?_, ?_, ?_, ?_⟩
  · intro commits pages
    rcases course.restores positive reached.told fun turn inside =>
      pageOf_of_carries (pages turn inside) with ⟨restored, length⟩
    exact ⟨restored, length ▸ requests⟩
  · intro commits turn failure inside pages denied
    have inside : turn * size ≤ commits.length :=
      Nat.le_trans (Nat.mul_le_mul_right size inside) (Nat.div_mul_le_self _ _)
    rcases course.fails_at reached.told inside
      (fun earlier before => pageOf_of_carries (pages earlier before)) (pageOf_of_denies denied)
      with ⟨failed, length⟩
    exact ⟨failed, length ▸ requests⟩
  · exact ⟨exchanges.length, course.length_le fewest reached.told, requests⟩
  · intro bound few
    exact (fetchAll_run fewest session few).symm

/-- Two commits fill a page of two, so that an empty one comes after it. -/
theorem fetchAll_restores_pages_full :
    let station : Station := ⟨"on-commit", "https://api.github.com", "token", [], "12:00:00"⟩
    let answers : List Answer := [.reply 200 "[1, 2]", .reply 200 "[]"]
    let run := fetchAll ⟨"hiero", "sdk"⟩ 8 (2 : Nat) station (.start answers [])
    0 < 2 ∧
      (∀ turn ≤ 1, Service.Carries (Answer.inTurn answers turn)
        (.list (pageAt 2 [.integer 1, .integer 2] turn))) ∧
      run.1 = .ok [.integer 1, .integer 2] ∧
      run.2.requests = pageRequests station.service ⟨"hiero", "sdk"⟩ 8 (2 : Nat) 1 2 := by
  intro station answers run
  have pages : ∀ turn ≤ 1, Service.Carries (Answer.inTurn answers turn)
      (.list (pageAt 2 [.integer 1, .integer 2] turn))
    | 0, _ | 1, _ => .telling (by decide) (by decide) rfl
  have restored := (fetchAll_restores_pages (by decide : 0 < 2) ⟨"hiero", "sdk"⟩ 8 station
    (.start answers [])).1 [.integer 1, .integer 2] pages
  exact ⟨by decide, pages, restored⟩

end Steward.Commit
