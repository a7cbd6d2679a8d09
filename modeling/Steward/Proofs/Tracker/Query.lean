import Steward.Proofs.Search.Clauses

/-! Queries as the service reads them. The text of a search is read back as the clauses that were
put into it. -/

namespace Steward

inductive Clause where
  | repository (path : String)
  | issues
  | isOpen
  | isClosed
  | assignee (login : String)
  | label (name : String)
  | unlabelled (name : String)
deriving DecidableEq, Repr

namespace Clause

def splitAtColon (word : List Char) : String × String :=
  (String.ofList (word.takeWhile (· ≠ ':')), String.ofList ((word.dropWhile (· ≠ ':')).drop 1))

def ofWord? (word : List Char) : Option Clause :=
  match splitAtColon word with
  | ("repo", path) => some (.repository path)
  | ("is", "issue") => some .issues
  | ("is", "open") => some .isOpen
  | ("is", "closed") => some .isClosed
  | ("assignee", login) => some (.assignee login)
  | ("label", name) => some (.label name)
  | ("-label", name) => some (.unlabelled name)
  | _ => none

end Clause

namespace Query

/-- The words of a text. They end at blanks, but not at those between double quotes, and the quotes
themselves are left out. -/
def words (quoted : Bool) (word : List Text.CodePoint) :
    List Text.CodePoint → List (List Text.CodePoint)
  | [] => [word]
  | point :: rest =>
      if point = .character '"' then words (!quoted) word rest
      else if point = .character ' ' ∧ quoted = false then word :: words false [] rest
      else words quoted (word ++ [point]) rest

def clause? (word : List Text.CodePoint) : Option Clause :=
  Clause.ofWord? (Wording.ofPoints word).shown.toList

def clauses? (query : Wording) : Option (List Clause) := (words false [] query.points).mapM clause?

example : clauses? "is:open -label:\"status: blocked\"" =
    some [.isOpen, .unlabelled "status: blocked"] := by decide

/-! ## Words -/

def unquote (clause : List Text.CodePoint) : List Text.CodePoint :=
  clause.filter (· ≠ .character '"')

theorem clause?_unquote (clause : String) :
    clause? (unquote (Wording.characters clause)) =
      Clause.ofWord? (clause.toList.filter (· ≠ '"')) := by
  have kept : unquote (Wording.characters clause) =
      (String.ofList (clause.toList.filter (· ≠ '"')) : Wording).points := by
    simp [unquote, Wording.characters, List.filter_map, Function.comp_def]
  rw [clause?, kept, Wording.ofPoints_points, Wording.shown_coe, String.toList_ofList]

/-- The words of a text are its clauses without their quotes. -/
theorem words_eq_cutFrom (quoted : Bool) (word text : List Text.CodePoint) :
    words quoted word text = ((cutFrom quoted text).map unquote).modifyHead (word ++ ·) := by
  induction text generalizing quoted word with
  | nil => simp [words, cutFrom, unquote]
  | cons point rest induction =>
      by_cases quote : point = .character '"'
      · subst quote
        have turned : (quoted ^^ Text.CodePoint.character '"' == .character '"') = !quoted := by
          cases quoted <;> rfl
        rw [words, if_pos rfl, induction, cutFrom, if_neg (by simp), turned]
        cases cutFrom (!quoted) rest <;> simp [unquote]
      · by_cases ends : point = .character ' ' ∧ quoted = false
        · rw [words, if_neg quote, if_pos ends, induction, cutFrom, if_pos ends]
          cases cutFrom false rest <;> simp [unquote]
        · rw [words, if_neg quote, if_neg ends, induction, cutFrom, if_neg ends,
            beq_false_of_ne quote, Bool.xor_false]
          cases cutFrom quoted rest <;> simp [unquote, quote]

end Query

/-! ## Searches -/

namespace Search

variable {owner repository login : String}

/-- A search for the open issues that somebody holds is understood. -/
theorem clauses?_query (ownerWord : (Json.text owner).isSearchWord = true)
    (repositoryWord : (Json.text repository).isSearchWord = true)
    (loginWord : (Json.text login).isSearchWord = true) :
    Query.clauses? (query ⟨owner, repository, login, openState, ""⟩) =
      some [.repository (owner ++ "/" ++ repository), .issues, .isOpen, .assignee login,
        .unlabelled Label.blocked] := by
  have sound : IsSound ⟨owner, repository, login, openState, ""⟩ := {
    owner := IsWord.iff_isSearchWord.mpr ownerWord
    repository := IsWord.iff_isSearchWord.mpr repositoryWord
    username := IsWord.iff_isSearchWord.mpr loginWord
    state := .inl rfl
    label := .inl rfl
    unquoted := by simp }
  have kept {word : String} (isWord : IsWord word) :
      word.toList.filter (· ≠ '"') = word.toList :=
    List.filter_eq_self.mpr fun character among => by
      simpa using (isWord.plain character among).plain.1
  have place : Query.clause?
      (Query.unquote (Wording.characters ("repo:" ++ owner ++ "/" ++ repository))) =
      some (.repository (owner ++ "/" ++ repository)) := by
    have path : String.ofList (owner.toList ++ '/' :: repository.toList) =
        owner ++ "/" ++ repository := by
      simp [← String.toList_inj]
    rw [Query.clause?_unquote]
    simp only [String.toList_append, List.filter_append, kept sound.owner, kept sound.repository]
    simp [Clause.ofWord?, Clause.splitAtColon, path]
  have holder : Query.clause? (Query.unquote (Wording.characters ("assignee:" ++ login))) =
      some (.assignee login) := by
    rw [Query.clause?_unquote, String.toList_append, List.filter_append, kept sound.username]
    simp [Clause.ofWord?, Clause.splitAtColon]
  have rest : Query.clause? (Query.unquote (Wording.characters "is:issue")) = some .issues ∧
      Query.clause? (Query.unquote (Wording.characters "is:open")) = some .isOpen ∧
      Query.clause? (Query.unquote (Wording.characters "-label:\"status: blocked\"")) =
        some (.unlabelled Label.blocked) := by
    decide
  have clauses : (clauses ⟨owner, repository, login, openState, ""⟩).map Wording.points =
      ["repo:" ++ owner ++ "/" ++ repository, "is:issue", "is:open", "assignee:" ++ login,
        "-label:\"status: blocked\""].map Wording.characters := by
    simp [clauses, labelClauses, toString, String.append_assoc, openState, Label.blocked]
  rw [Query.clauses?, Query.words_eq_cutFrom, sound.cutFrom_query, clauses]
  simp only [List.map_cons, List.map_nil, List.modifyHead_cons, List.nil_append, List.mapM_cons,
    List.mapM_nil, place, holder, rest]
  rfl

end Search

end Steward
