import Steward.Proofs.Search.Guard

/-! Queries and their clauses. The text of a query is cut again into the clauses that were put into
it, whatever label is asked for; so no value can add a clause to a query, take one away or join two,
and different questions are never asked in the same words. -/

namespace Steward

namespace Query

/-! ## Cutting

A text is cut at the spaces outside double quotes. A quote opens a span or closes one, and stays in
its piece. -/

def cutFrom (quoted : Bool) : List Text.CodePoint → List (List Text.CodePoint)
  | [] => [[]]
  | point :: rest =>
      if point = .character ' ' ∧ quoted = false then [] :: cutFrom false rest
      else (cutFrom (quoted ^^ point == .character '"') rest).modifyHead (point :: ·)

def cut (query : Wording) : List Wording := (cutFrom false query.points).map .ofPoints

example : cut "is:open -label:\"status: blocked\"" =
    (["is:open", "-label:\"status: blocked\""] : List Wording) := by decide

/-- A text that stays whole in whatever text it begins: no space in it lies outside quotes, and each
quote in it has its partner. -/
structure IsWhole (text : List Text.CodePoint) : Prop where
  uncut (rest : List Text.CodePoint) :
    cutFrom false (text ++ rest) = (cutFrom false rest).modifyHead (text ++ ·)
  paired : text.count (.character '"') % 2 = 0

namespace IsWhole

theorem append {first second : List Text.CodePoint} (whole : IsWhole first)
    (wholeToo : IsWhole second) :
    IsWhole (first ++ second) where
  uncut rest := by
    rw [List.append_assoc, whole.uncut, wholeToo.uncut, List.modifyHead_modifyHead]
    congr 1
    funext piece
    exact (List.append_assoc first second piece).symm
  paired := by
    have evenFirst := whole.paired
    have evenSecond := wholeToo.paired
    rw [List.count_append]
    omega

theorem of_plain (text : List Char)
    (plain : ∀ character ∈ text, character ≠ '"' ∧ character ≠ ' ') :
    IsWhole (text.map .character) where
  uncut rest := by
    induction text with
    | nil => cases pieces : cutFrom false rest <;> simp [pieces]
    | cons character text induction =>
        rcases List.forall_mem_cons.mp plain with ⟨⟨noQuote, noSpace⟩, plain⟩
        have stays : (Text.CodePoint.character character == .character '"') = false := by
          simp [noQuote]
        rw [List.map_cons, List.cons_append, cutFrom, if_neg (by simp [noSpace]), stays,
          Bool.xor_false, induction plain, List.modifyHead_modifyHead]
        rfl
  paired := by
    have unquoted : .character '"' ∉ text.map Text.CodePoint.character := by
      simpa using fun quote => (plain '"' quote).1 rfl
    rw [List.count_eq_zero_of_not_mem unquoted]

/-- Between two quotes stands any text without one. -/
theorem of_quoted {text : List Text.CodePoint} (unquoted : .character '"' ∉ text) :
    IsWhole (.character '"' :: (text ++ [.character '"'])) where
  uncut rest := by
    -- Between the quotes nothing is cut; the second one ends the span.
    have inside (text : List Text.CodePoint) (unquoted : .character '"' ∉ text)
        (rest : List Text.CodePoint) :
        cutFrom true (text ++ .character '"' :: rest) =
          (cutFrom false rest).modifyHead (text ++ .character '"' :: ·) := by
      induction text with
      | nil => simp [cutFrom]
      | cons point text induction =>
          have noQuote : point ≠ .character '"' := (List.ne_of_not_mem_cons unquoted).symm
          rw [List.cons_append, cutFrom, if_neg (by simp), beq_false_of_ne noQuote, Bool.xor_false,
            induction (List.not_mem_of_not_mem_cons unquoted), List.modifyHead_modifyHead]
          rfl
    have opened : cutFrom false (.character '"' :: (text ++ [.character '"']) ++ rest) =
        (cutFrom true (text ++ .character '"' :: rest)).modifyHead (.character '"' :: ·) := by
      simp [cutFrom]
    rw [opened, inside text unquoted, List.modifyHead_modifyHead]
    congr 1
    funext piece
    simp
  paired := by
    simp [List.count_eq_zero_of_not_mem unquoted]

end IsWhole

/-- Whole texts with spaces between them are what their text is cut into. -/
theorem cutFrom_intercalate {clauses : List (List Text.CodePoint)}
    (whole : ∀ clause ∈ clauses, IsWhole clause) (some_ : clauses ≠ []) :
    cutFrom false ([.character ' '].intercalate clauses) = clauses := by
  induction clauses with
  | nil => exact absurd rfl some_
  | cons clause clauses induction =>
      rcases List.forall_mem_cons.mp whole with ⟨first, others⟩
      cases clauses with
      | nil =>
          have alone := first.uncut []
          simpa [cutFrom] using alone
      | cons second clauses =>
          have rest :
              cutFrom false (.character ' ' :: [.character ' '].intercalate (second :: clauses)) =
                [] :: second :: clauses := by
            rw [cutFrom, if_pos ⟨rfl, rfl⟩, induction others (List.cons_ne_nil _ _)]
          rw [List.intercalate_cons_cons, List.append_assoc, List.singleton_append, first.uncut,
            rest, List.modifyHead_cons, List.append_nil]

theorem paired_intercalate {clauses : List (List Text.CodePoint)}
    (whole : ∀ clause ∈ clauses, IsWhole clause) :
    ([.character ' '].intercalate clauses).count (.character '"') % 2 = 0 := by
  induction clauses with
  | nil => rfl
  | cons clause clauses induction =>
      rcases List.forall_mem_cons.mp whole with ⟨first, others⟩
      have evenFirst := first.paired
      have evenOthers := induction others
      cases clauses with
      | nil => simpa using evenFirst
      | cons second clauses =>
          rw [List.intercalate_cons_cons, List.count_append, List.count_append,
            show [Text.CodePoint.character ' '].count (.character '"') = 0 by decide]
          omega

end Query

namespace Search

/-! ## Searches by values -/

structure IsSound (search : Search) : Prop where
  owner : IsWord search.owner
  repository : IsWord search.repository
  username : IsWord search.username
  state : search.state = "open" ∨ search.state = "closed"
  label : search.label = "" ∨ Text.isAllBlank search.label.shown = false
  unquoted : '"' ∉ search.label.shown.toList

/-- The search that values stand for. Absent labels are all the same: none is asked for. -/
structure Inputs.Name (inputs : Inputs) (search : Search) : Prop where
  owner : inputs.owner = .text search.owner
  repository : inputs.repository = .text search.repository
  username : inputs.username = .text search.username
  state : inputs.state = .text search.state
  label : inputs.label.isFalsy = true ∧ search.label = "" ∨
    inputs.label = .text search.label ∧ search.label ≠ ""

theorem label?_eq_some_iff {value : Json} {label : Wording} :
    label? value = some label ↔
      (value.isFalsy = true ∧ label = "" ∨ value = .text label ∧ label ≠ "") ∧
        (label = "" ∨ Text.isAllBlank label.shown = false) ∧ '"' ∉ label.shown.toList := by
  cases falsy : value.isFalsy with
  | true =>
      simp only [label?, falsy, if_true, Option.some.injEq, true_and]
      constructor
      · rintro rfl
        exact ⟨.inl rfl, .inl rfl, by simp⟩
      · intro named
        rcases named.1 with none_ | ⟨labelled, some_⟩
        · exact none_.symm
        · simp [labelled, Json.isFalsy, some_] at falsy
  | false =>
      cases value with
      | text other =>
          have some_ : other ≠ "" := by simpa [Json.isFalsy] using falsy
          by_cases equal : other = label
          · subst equal
            simp [label?, falsy, some_]
          · simp [label?, falsy, equal]
      | _ => simp [label?, falsy]

/-- The guard makes of values the search that they stand for, if its clauses can be kept apart. -/
theorem ofInputs_eq_ok_iff_name {inputs : Inputs} {search : Search} :
    ofInputs inputs = .ok search ↔ search.IsSound ∧ inputs.Name search := by
  constructor
  · intro made
    have sound := ofInputs_eq_ok_iff.mp ⟨search, made⟩
    rcases sound.owner with ⟨owner, ownerIs, ownerWord⟩
    rcases sound.repository with ⟨repository, repositoryIs, repositoryWord⟩
    rcases sound.username with ⟨username, usernameIs, usernameWord⟩
    rcases Option.isSome_iff_exists.mp (label?_isSome_iff.mpr sound.label) with ⟨label, labelIs⟩
    rcases label?_eq_some_iff.mp labelIs with ⟨named, spoken, unquoted⟩
    have words := And.intro (IsWord.iff_isSearchWord.mp ownerWord)
      (And.intro (IsWord.iff_isSearchWord.mp repositoryWord)
        (IsWord.iff_isSearchWord.mp usernameWord))
    rcases sound.state with state | state <;>
      simp [ofInputs, ownerIs, repositoryIs, usernameIs, state, words, labelIs, openState,
        closedState, Json.display] at made <;>
      subst made
    · exact ⟨⟨ownerWord, repositoryWord, usernameWord, .inl rfl, spoken, unquoted⟩,
        ⟨ownerIs, repositoryIs, usernameIs, state, named⟩⟩
    · exact ⟨⟨ownerWord, repositoryWord, usernameWord, .inr rfl, spoken, unquoted⟩,
        ⟨ownerIs, repositoryIs, usernameIs, state, named⟩⟩
  · intro both
    rcases both with ⟨sound, name⟩
    have labelIs : label? inputs.label = some search.label :=
      label?_eq_some_iff.mpr ⟨name.label, sound.label, sound.unquoted⟩
    have ownerWord := IsWord.iff_isSearchWord.mp sound.owner
    have repositoryWord := IsWord.iff_isSearchWord.mp sound.repository
    have usernameWord := IsWord.iff_isSearchWord.mp sound.username
    have known : ((search.state : Wording) = openState || (search.state : Wording) = closedState) =
        true := by
      rcases sound.state with state | state <;> simp [state, openState, closedState]
    simp only [ofInputs, name.owner, name.repository, name.username, name.state, ownerWord,
      repositoryWord, usernameWord, labelIs, known, Json.display, Bool.and_self, if_true,
        Wording.shown_coe]

/-! ## Clauses of a search -/

variable {search other : Search}

theorem isWhole_word {text : String} (word : IsWord text) :
    Query.IsWhole (Wording.characters text) :=
  .of_plain _ fun character among => (word.plain character among).plain

namespace IsSound

theorem isWhole_label (sound : search.IsSound) {clause : Wording}
    (among : clause ∈ search.labelClauses) : Query.IsWhole clause.points := by
  have labelled (mark : String) (label : Wording)
      (plain : ∀ character ∈ mark.toList, character ≠ '"' ∧ character ≠ ' ')
      (unquoted : '"' ∉ label.shown.toList) :
      Query.IsWhole (mark ++ "\"" ++ label ++ "\"" : Wording).points := by
    have whole := (Query.IsWhole.of_plain _ plain).append
      (.of_quoted fun quote => unquoted (Wording.mem_shown_of_mem_points quote))
    simpa [Wording.characters] using whole
  unfold labelClauses at among
  split at among
  · rw [List.mem_singleton.mp among]
    exact labelled "label:" search.label (by simp) sound.unquoted
  · split at among
    · rw [List.mem_singleton.mp among]
      exact labelled "-label:" Label.blocked (by simp) (by decide)
    · cases among

theorem isWhole (sound : search.IsSound) {clause : Wording} (among : clause ∈ search.clauses) :
    Query.IsWhole clause.points := by
  have mark (text : String) (plain : ∀ character ∈ text.toList, character ≠ '"' ∧ character ≠ ' ') :
      Query.IsWhole (Wording.characters text) := .of_plain _ plain
  have owner := isWhole_word sound.owner
  have repository := isWhole_word sound.repository
  have username := isWhole_word sound.username
  simp only [clauses, List.cons_append, List.nil_append, List.mem_cons] at among
  rcases among with rfl | rfl | rfl | rfl | label
  · have plain :=
      (mark "repo:" (by simp)).append (owner.append ((mark "/" (by simp)).append repository))
    simpa [toString, Wording.characters] using plain
  · exact mark "is:issue" (by simp)
  · rcases sound.state with state | state <;> rw [state, Wording.points_coe] <;>
      exact mark _ (by simp [toString])
  · have plain := (mark "assignee:" (by simp)).append username
    simpa [toString, Wording.characters] using plain
  · exact sound.isWhole_label label

/-- A query is cut into the clauses that were put into it. -/
theorem cutFrom_query (sound : search.IsSound) :
    Query.cutFrom false search.query.points = search.clauses.map Wording.points := by
  have whole : ∀ clause ∈ search.clauses.map Wording.points, Query.IsWhole clause :=
    List.forall_mem_map.mpr fun clause among => sound.isWhole among
  rw [query, Wording.points_joined]
  exact Query.cutFrom_intercalate whole (by simp [clauses])

theorem cut_query (sound : search.IsSound) : Query.cut search.query = search.clauses := by
  rw [Query.cut, sound.cutFrom_query, List.map_map]
  exact List.map_id'' Wording.ofPoints_points _

theorem paired (sound : search.IsSound) :
    search.query.points.count (.character '"') % 2 = 0 := by
  rw [query, Wording.points_joined]
  exact Query.paired_intercalate (List.forall_mem_map.mpr fun clause among => sound.isWhole among)

end IsSound

/-! ## Questions -/

/-- Searches in the same place, for the same issues of the same contributor. Owner and repository
may be told apart in several ways where they have slashes themselves. -/
structure AsksAs (search other : Search) : Prop where
  place : search.owner ++ "/" ++ search.repository = other.owner ++ "/" ++ other.repository
  username : search.username = other.username
  state : search.state = other.state
  label : search.label = other.label

/-- A named label is asked for, and never in the words that keep blocked issues out. -/
theorem labelClauses_eq_of_named {label : Wording} (named : label ≠ "") :
    search.labelClauses = ["label:\"" ++ label ++ "\""] ↔ search.label = label := by
  unfold labelClauses
  split
  · simp [← Wording.points_inj]
  · rename_i none_
    have differ : search.label ≠ label := fun equal => none_ (equal ▸ named)
    split <;> simp [differ, toString, ← Wording.points_inj, Wording.characters]

theorem label_eq_of_clauses (same : search.labelClauses = other.labelClauses) :
    search.label = other.label := by
  by_cases named : search.label = ""
  · by_cases otherNamed : other.label = ""
    · rw [named, otherNamed]
    · exact (labelClauses_eq_of_named otherNamed).mp
        (same.trans ((labelClauses_eq_of_named otherNamed).mpr rfl))
  · exact ((labelClauses_eq_of_named named).mp
      (same.symm.trans ((labelClauses_eq_of_named named).mpr rfl))).symm

theorem asksAs_of_clauses (same : search.clauses = other.clauses) : search.AsksAs other := by
  simp only [clauses, List.cons_append, List.nil_append, List.cons.injEq] at same
  rcases same with ⟨place, -, state, username, labels⟩
  exact {
    place := by simpa [toString, ← String.toList_inj] using place
    state := by simpa [toString, ← String.toList_inj] using state
    username := by simpa [toString, ← String.toList_inj] using username
    label := label_eq_of_clauses labels }

theorem IsSound.asksAs (sound : search.IsSound) (soundToo : other.IsSound)
    (same : search.query = other.query) : search.AsksAs other := by
  apply asksAs_of_clauses
  rw [← sound.cut_query, ← soundToo.cut_query, same]

/-! ## Counts -/

theorem CountCourse.sends_iff {inputs : Inputs} {base : String} {query : Wording}
    {exchanges : List Exchange} {result : Except Failure Count}
    (course : CountCourse base inputs exchanges result) :
    exchanges.map Exchange.request = [.count base query] ↔
      ∃ search, ofInputs inputs = .ok search ∧ search.query = query := by
  cases course with
  | refused stopped => simp [stopped]
  | asked made =>
      simp only [made, Except.ok.injEq, exists_eq_left', List.map_cons, List.map_nil,
        List.singleton_inj]
      exact ⟨Request.count_injective, fun same => congrArg _ same⟩

theorem count_sends_iff {inputs : Inputs} {query : Wording} (station : Station)
    (answers : List Answer) (files : Files) :
    (count inputs station (.start answers files)).2.requests = [.count station.service query] ↔
      ∃ search, ofInputs inputs = .ok search ∧ search.query = query := by
  rcases takes_count inputs (.start answers files) with ⟨exchanges, reached, course⟩
  have requests : (count inputs station (.start answers files)).2.requests =
      exchanges.map Exchange.request := reached.requests
  rw [requests, course.sends_iff]

/-- A count from sound values asks in the clauses that they stand for, and in no others. What it
asks in the words of another count from any values is the same question. -/
theorem count_asks_in_clauses {inputs : Inputs} (sound : inputs.AreSound) :
    ∃ search : Search, inputs.Name search ∧
      (∀ station answers files, (count inputs station (.start answers files)).2.requests =
        [.count station.service search.query]) ∧
      Query.cut search.query =
        ([("repo:" ++ search.owner ++ "/" ++ search.repository : String), "is:issue",
          ("is:" ++ search.state : String), ("assignee:" ++ search.username : String)] :
          List Wording) ++
        (if search.label ≠ "" then ["label:\"" ++ search.label ++ "\""]
          else if search.state = "open" then ["-label:\"status: blocked\""] else []) ∧
      search.query.points.count (.character '"') % 2 = 0 ∧
      ∀ (otherInputs : Inputs) (station : Station) (answers : List Answer) (files : Files),
        (count otherInputs station (.start answers files)).2.requests =
            [.count station.service search.query] →
          ∃ other : Search, otherInputs.Name other ∧ other.AsksAs search := by
  rcases ofInputs_eq_ok_iff.mpr sound with ⟨search, made⟩
  rcases ofInputs_eq_ok_iff_name.mp made with ⟨searchSound, name⟩
  have sends (station answers files) :=
    (count_sends_iff station answers files).mpr ⟨search, made, rfl⟩
  refine ⟨search, name, sends, searchSound.cut_query, searchSound.paired, ?_⟩
  intro otherInputs station answers files sent
  rcases (count_sends_iff station answers files).mp sent with ⟨other, madeToo, same⟩
  rcases ofInputs_eq_ok_iff_name.mp madeToo with ⟨otherSound, otherName⟩
  exact ⟨other, otherName, otherSound.asksAs searchSound same⟩

/-- A label that reads like clauses stays within its quotes. -/
theorem count_asks_in_clauses_forged :
    let inputs : Inputs :=
      ⟨.text "hiero", .text "sdk", .text "ada", .text "open", .text "easy is:closed\nassignee:eve"⟩
    inputs.AreSound ∧ ∃ search : Search, inputs.Name search ∧
      Query.cut search.query = (["repo:hiero/sdk", "is:issue", "is:open", "assignee:ada",
        "label:\"easy is:closed\nassignee:eve\""] : List Wording) := by
  intro inputs
  have sound : inputs.AreSound := ofInputs_eq_ok_iff.mp ⟨_, rfl⟩
  rcases count_asks_in_clauses sound with ⟨search, name, -, cut, -⟩
  have owner : "hiero" = search.owner := Json.eq_of_text name.owner
  have repository : "sdk" = search.repository := Json.eq_of_text name.repository
  have username : "ada" = search.username := Json.eq_of_text name.username
  have state : "open" = search.state := Json.eq_of_text name.state
  have label : ("easy is:closed\nassignee:eve" : Wording) = search.label := by
    rcases name.label with none_ | named
    · cases none_.1
    · exact Json.text.inj named.1
  rw [← owner, ← repository, ← username, ← state, ← label] at cut
  exact ⟨sound, search, name, cut.trans (by decide)⟩

end Search

end Steward
