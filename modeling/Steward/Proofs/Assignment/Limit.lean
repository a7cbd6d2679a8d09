import Steward.Proofs.Assignment.Comment.Limit
import Steward.Proofs.Assignment.Entitlement

/-! Lookups that reach the limit. Their comment shows what was counted and links to it, so that
whoever follows the links finds the same issues, and a second search that goes wrong costs nothing
but its link. -/

namespace Steward.Assignment

/-! ## Faulty answers -/

inductive IsFaulty : Answer → Prop
  | denied {answer : Answer} {failure : Failure} (denies : Service.Denies answer failure) :
      IsFaulty answer
  | blamed {status : Int} {body : String} {members : List (Wording × Json)}
      (accepted : status < 400) (read : Json.read body = .ok (.object members))
      (errors : (Json.lookup members "errors").isFalsy = false) : IsFaulty (.reply status body)

theorem IsFaulty.dataless {answer : Answer} (faulty : IsFaulty answer) (data : Json) :
    Service.dataIn answer ≠ .ok data := by
  intro carried
  rcases Search.dataIn_eq_ok_iff.mp carried with ⟨members, decoded, sound, -⟩
  cases faulty with
  | denied denies => cases decoded.symm.trans (Service.decode_eq_error_iff.mpr denies)
  | @blamed status body others accepted read errors =>
      have spoken : body ≠ "" := by
        intro empty
        rw [empty] at read
        cases read
      have readToo := (Service.decode_reply_eq_ok_iff.mp decoded).2
      rw [if_neg spoken, read] at readToo
      cases readToo
      cases sound.symm.trans errors

theorem IsFaulty.reading {answer : Answer} (faulty : IsFaulty answer) :
    ∃ reason, Search.reading answer = .ok (.unverified reason) := by
  unfold Search.reading
  cases carried : Service.dataIn answer with
  | ok data => exact absurd carried (faulty.dataless data)
  | error failure => exact ⟨_, rfl⟩

/-! ## Runs -/

section

variable {base : String} {context : Context} {login : String} {exchanges : List Exchange}
  {result : Except Failure (Passage Unit)} {answers : List Answer} {held : Int}
  {blocked : Search.Count}

theorem answers_of_told {first second : Answer} {rest : List Exchange}
    (told : openSearched base context login first ::
        blockedSearched base context login second :: rest =
      Exchange.pair answers ((openSearched base context login first ::
        blockedSearched base context login second :: rest).map Exchange.request)) :
    first = Answer.inTurn answers 0 ∧ second = Answer.inTurn answers 1 := by
  rcases Exchange.told_cons told with ⟨firstIs, later⟩
  have secondIs := (Exchange.told_cons later).1
  rw [Answer.inTurn_drop] at secondIs
  exact ⟨firstIs, secondIs⟩

/-- A course that reaches the limit has counted both the open and the blocked issues. -/
theorem LimitCourse.readings (course : LimitCourse base context login exchanges result)
    (told : exchanges = Exchange.pair answers (exchanges.map Exchange.request))
    (settled : result = .ok (.settled .limitExceeded)) :
    ∃ held blocked, Search.reading (Answer.inTurn answers 0) = .ok (.verified held) ∧
      maximumOpen ≤ held ∧ Search.reading (Answer.inTurn answers 1) = .ok blocked := by
  cases course with
  | exceeded read full blockedRead =>
      rcases answers_of_told told with ⟨rfl, rfl⟩
      exact ⟨_, _, read, full, blockedRead⟩
  | _ => cases settled

/-- The limit is reached if the first search tells so and the second comes to a count. -/
theorem LimitCourse.exceeds (course : LimitCourse base context login exchanges result)
    (told : exchanges = Exchange.pair answers (exchanges.map Exchange.request))
    (read : Search.reading (Answer.inTurn answers 0) = .ok (.verified held))
    (full : maximumOpen ≤ held) (readToo : Search.reading (Answer.inTurn answers 1) = .ok blocked) :
    result = .ok (.settled .limitExceeded) ∧ exchanges.map Exchange.request =
      [.count base (searchOf context login Search.openState "").query,
        .count base (searchOf context login Search.openState Label.blocked).query,
        .comment base context.repository context.number
          (Comment.limitExceeded login (toString held) context.repository
            (0 < blockedOf blocked))] := by
  cases course with
  | unreadable other | unverified other =>
      rw [← (Exchange.told_cons told).1] at read
      cases read.symm.trans other
  | within other room =>
      rw [← (Exchange.told_cons told).1] at read
      cases read.symm.trans other
      omega
  | blockedUnreadable _ _ blockedOther =>
      rcases answers_of_told told with ⟨rfl, rfl⟩
      cases readToo.symm.trans blockedOther
  | exceeded other _ blockedOther =>
      rcases answers_of_told told with ⟨rfl, rfl⟩
      cases read.symm.trans other
      cases readToo.symm.trans blockedOther
      exact ⟨rfl, rfl⟩

theorem blockedOf_pos_iff {second : Answer} (read : Search.reading second = .ok blocked) :
    0 < blockedOf blocked ↔ ∃ found, second.Tells found ∧ 0 < found := by
  simp only [← Search.reading_eq_verified_iff, read]
  cases blocked with
  | verified count => simp [blockedOf]
  | unverified reason => simp [blockedOf]

end

/-- Whoever reaches the limit can be asked for. -/
theorem areWords_of_exceeded {context : Context} {requester : Json} {station : Station}
    {session : Session}
    (exceeded : (checkLimit context requester station session).1 = .ok (.settled .limitExceeded)) :
    ∃ login : String, requester = .text login ∧ AreWords context login := by
  rcases takes_limitLookups session with ⟨exchanges, reached, course⟩
  rw [exceeded] at course
  cases course with
  | exceeded asked =>
      have sound : (openInquiry context requester).AreSound := by
        rw [← asked.asks_iff, ← List.length_pos_iff, asked.length_of_verified rfl]
        exact Nat.one_pos
      rcases sound.owner with ⟨_, ownerIs, ownerWord⟩
      rcases sound.repository with ⟨_, nameIs, nameWord⟩
      rcases sound.username with ⟨login, loginIs, loginWord⟩
      cases ownerIs
      cases nameIs
      exact ⟨login, loginIs, IsWord.iff_isSearchWord.mp ownerWord,
        IsWord.iff_isSearchWord.mp nameWord, IsWord.iff_isSearchWord.mp loginWord⟩

def limitRequests (base : String) (context : Context) (opens blocks comment : String) :
    List Request :=
  let place := s!"repo:{context.repository.owner}/{context.repository.name} "
  [.count base (place ++ opens), .count base (place ++ blocks),
    .comment base context.repository context.number comment]

theorem checkLimit_exceeds {context : Context} {login : String} (words : AreWords context login)
    (station : Station) (session : Session) {held : Int} {blocked : Search.Count}
    (read : Search.reading (Answer.inTurn session.answers 0) = .ok (.verified held))
    (full : maximumOpen ≤ held)
    (readToo : Search.reading (Answer.inTurn session.answers 1) = .ok blocked) :
    (checkLimit context (.text login) station session).1 = .ok (.settled .limitExceeded) ∧
      (checkLimit context (.text login) station session).2.requests = session.requests ++
        limitRequests station.service context (openQuery login) (blockedQuery login)
          (Comment.limitExceeded login (toString held) context.repository
            (0 < blockedOf blocked)) := by
  rcases takes_checkLimit words session with ⟨exchanges, reached, course⟩
  rcases course.exceeds reached.told read full readToo with ⟨settled, requests⟩
  rw [query_openSearch, query_blockedSearch] at requests
  exact ⟨settled, by rw [reached.requests, requests]; rfl⟩

/-- Where the limit is reached, the number in the first answer is two or more, and the one comment
shows it. The links of the comment, decoded, are the queries that were counted, without the place.
The link to blocked issues is there exactly if the second answer tells of some. By a second answer
that is faulty the limit is reached all the same, and the comment lacks no lines but those on
blocked issues. -/
theorem checkLimit_tells_counted (context : Context) (requester : Json) (station : Station)
    (session : Session)
    (exceeded : (checkLimit context requester station session).1 = .ok (.settled .limitExceeded)) :
    let first := Answer.inTurn session.answers 0
    let second := Answer.inTurn session.answers 1
    ∃ held opens blocks comment,
      first.Tells held ∧ 2 ≤ held ∧
      (checkLimit context requester station session).2.requests =
        session.requests ++ limitRequests station.service context opens blocks comment ∧
      TellsLimit held (∃ blocked, second.Tells blocked ∧ 0 < blocked) opens blocks comment ∧
      ∀ other : Session, Answer.inTurn other.answers 0 = first →
        IsFaulty (Answer.inTurn other.answers 1) →
        ∃ shorter, (checkLimit context requester station other).1 = .ok (.settled .limitExceeded) ∧
          (checkLimit context requester station other).2.requests =
            other.requests ++ limitRequests station.service context opens blocks shorter ∧
          TellsLimit held False opens blocks shorter ∧
          ∃ before onBlocked after,
            Text.lines comment = before ++ onBlocked ++ after ∧
            Text.lines shorter = before ++ after ∧
            (onBlocked = [] ∨
              ∃ link, onBlocked = ["", "👉 **View your blocked issues:**", link]) := by
  intro first second
  rcases areWords_of_exceeded exceeded with ⟨login, rfl, words⟩
  rcases takes_checkLimit words session with ⟨exchanges, reached, course⟩
  rcases course.readings reached.told exceeded with ⟨held, blocked, read, full, readToo⟩
  have counted : Decidable.decide (0 < blockedOf blocked) = true ↔
      ∃ found, second.Tells found ∧ 0 < found := by
    rw [decide_eq_true_iff]
    exact blockedOf_pos_iff readToo
  refine ⟨held, openQuery login, blockedQuery login, _, Search.reading_eq_verified_iff.mp read,
    full, (checkLimit_exceeds words station session read full readToo).2,
    tellsLimit words held counted, ?_⟩
  intro other same faulty
  rcases faulty.reading with ⟨reason, unread⟩
  have firstRead : Search.reading (Answer.inTurn other.answers 0) = .ok (.verified held) := by
    rw [same]
    exact read
  rcases checkLimit_exceeds words station other firstRead full unread with ⟨settled, requests⟩
  have none_ : Decidable.decide (0 < blockedOf (.unverified reason)) = true ↔ False := by
    simp [blockedOf]
  refine ⟨_, settled, requests, tellsLimit words held none_, _, _, _,
    lines_limitExceeded words held _, ?_, ?_⟩
  · rw [lines_limitExceeded words, List.append_assoc _ _ linesAfter]
    rfl
  · rw [linesOnBlocked]
    split
    · exact .inr ⟨_, rfl⟩
    · exact .inl rfl

def telling (number : String) : Answer :=
  .reply 200 ("\x7b\"data\":\x7b\"search\":\x7b\"issueCount\":" ++ number ++ "\x7d\x7d\x7d")

/-- Somebody holds three open issues that are not blocked, and one that is. -/
theorem checkLimit_tells_counted_three :
    let station : Station := ⟨"on-comment", "https://api.github.com", "token", [], "12:00:00"⟩
    let context : Context := ⟨⟨"hiero", "sdk"⟩, "issue_comment", 7, none, none, none, .standard⟩
    let session := Session.start [telling "3", telling "1"] []
    (checkLimit context (.text "ada") station session).1 =
        .ok (.settled .limitExceeded) ∧
      ∃ opens blocks comment,
        (checkLimit context (.text "ada") station session).2.requests =
          limitRequests station.service context opens blocks comment ∧
        heldLine 3 ∈ Text.lines comment ∧
        linked "Your open assignments" comment = [Text.Utf8.encode opens] ∧
        linked "Your blocked issues" comment = [Text.Utf8.encode blocks] := by
  intro station context session
  have words : AreWords context "ada" := ⟨by decide, by decide, by decide⟩
  have three : Search.reading (telling "3") = .ok (.verified 3) :=
    Except.toOption_eq_some_iff.mp (by decide +kernel)
  have one : Search.reading (telling "1") = .ok (.verified 1) :=
    Except.toOption_eq_some_iff.mp (by decide +kernel)
  have exceeded : (checkLimit context (.text "ada") station session).1 =
      .ok (.settled .limitExceeded) :=
    (checkLimit_exceeds words station session three (by decide) one).1
  rcases checkLimit_tells_counted context (.text "ada") station session exceeded with
    ⟨held, opens, blocks, comment, tells, -, requests, told, -⟩
  have three_ : held = 3 := tells.unique (Search.reading_eq_verified_iff.mp three)
  subst three_
  have some_ : ∃ blocked, (telling "1").Tells blocked ∧ 0 < blocked :=
    ⟨1, Search.reading_eq_verified_iff.mp one, Int.one_pos⟩
  refine ⟨exceeded, opens, blocks, comment, ?_, (told.shows 3).mpr rfl, told.opensLinked,
    told.blocksLinked some_⟩
  rw [requests]
  exact List.nil_append _

end Steward.Assignment
