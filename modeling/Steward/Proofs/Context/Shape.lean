import Steward.Context
import Steward.Proofs.Json
import Steward.Proofs.Word

/-! The events that are accepted, by their shape: each check lets through what has its shape, and
nothing else. -/

namespace Steward

namespace Context

/-! ## Shapes -/

inductive IsRepository : Json → Repository → Prop
  | coordinates {members : List (Wording × Json)} {owner name : String}
      (ownerIs : Json.lookup members "owner" = .text owner) (ownerWord : IsWord owner)
      (nameIs : Json.lookup members "repo" = .text name) (nameWord : IsWord name) :
      IsRepository (.object members) ⟨owner, name⟩

inductive IsNumbered : Json → Int → Prop
  | numbered {members : List (Wording × Json)} {number : Int}
      (numberIs : Json.lookup members "number" = .integer number) (positive : 1 ≤ number) :
      IsNumbered (.object members) number

inductive IsAuthor : Json → Prop
  | author {members : List (Wording × Json)} {login : String}
      (loginIs : Json.lookup members "login" = .text login) (word : IsWord login) :
      IsAuthor (.object members)

inductive IsComment : Json → Prop
  | comment {members : List (Wording × Json)} {body : Wording}
      (author : IsAuthor (Json.lookup members "user"))
      (bodyIs : Json.lookup members "body" = .text body) : IsComment (.object members)

inductive Describes (settings : Settings) : Event → Context → Prop
  | pull {name : String} {coordinates : Json} {payload : List (Wording × Json)}
      {repository : Repository} {number : Int}
      (kind : name = "pull_request" ∨ name = "pull_request_target")
      (found : IsRepository coordinates repository)
      (numbered : IsNumbered (Json.lookup payload "pull_request") number)
      (author : (Event.valueAt (Json.lookup payload "pull_request") ["user"]).isFalsy = true ∨
        IsAuthor (Event.valueAt (Json.lookup payload "pull_request") ["user"])) :
      Describes settings ⟨.text name, coordinates, .object payload⟩
        ⟨repository, name, number, none, some (Json.lookup payload "pull_request"), none, settings⟩
  | issue {coordinates : Json} {payload : List (Wording × Json)} {repository : Repository}
      {number : Int} (found : IsRepository coordinates repository)
      (numbered : IsNumbered (Json.lookup payload "issue") number) :
      Describes settings ⟨.text "issues", coordinates, .object payload⟩
        ⟨repository, "issues", number, some (Json.lookup payload "issue"), none, none, settings⟩
  | comment {coordinates : Json} {payload : List (Wording × Json)} {repository : Repository}
      {number : Int} (found : IsRepository coordinates repository)
      (numbered : IsNumbered (Json.lookup payload "issue") number)
      (commented : IsComment (Json.lookup payload "comment")) :
      Describes settings ⟨.text "issue_comment", coordinates, .object payload⟩
        ⟨repository, "issue_comment", number, some (Json.lookup payload "issue"), none,
          some (Json.lookup payload "comment"), settings⟩

/-! ## Checks -/

theorem requireSearchWord_eq_ok_iff_isWord {value : Json} {label field word : String} :
    value.requireSearchWord label field = .ok word ↔ value = .text word ∧ IsWord word := by
  rw [Json.requireSearchWord_eq_ok_iff]
  constructor
  · intro checked
    rcases checked with ⟨rfl, -, safe⟩
    exact ⟨rfl, IsWord.iff_isSearchWord.mpr safe⟩
  · intro wordIs
    rcases wordIs with ⟨rfl, word⟩
    exact ⟨rfl, word.spoken, IsWord.iff_isSearchWord.mp word⟩

theorem checkedRepository_eq_ok_iff {value : Json} {repository : Repository} :
    checkedRepository value = .ok repository ↔ IsRepository value repository := by
  constructor
  · intro checked
    simp only [checkedRepository, Except.bind_eq_ok_iff, Json.requireNonBlank_eq_ok_iff] at checked
    rcases checked with ⟨owner, ⟨ownerIs, -⟩, name, ⟨nameIs, -⟩, checked⟩
    rw [ownerIs, nameIs] at checked
    by_cases safe : ((Json.text owner).isSearchWord && (Json.text name).isSearchWord) = true
    · rw [if_pos safe] at checked
      cases checked
      rw [Bool.and_eq_true] at safe
      have ownerSame := Json.eq_shown_of_isSearchWord safe.1
      have nameSame := Json.eq_shown_of_isSearchWord safe.2
      rw [ownerSame] at ownerIs
      rw [nameSame] at nameIs
      rw [ownerSame, nameSame, ← IsWord.iff_isSearchWord, ← IsWord.iff_isSearchWord] at safe
      cases value with
      | object members => exact .coordinates ownerIs safe.1 nameIs safe.2
      | _ => cases ownerIs
    · rw [if_neg safe] at checked
      cases checked
  · intro found
    rcases found with ⟨ownerIs, ownerWord, nameIs, nameWord⟩
    simp [checkedRepository, Event.valueAt_object, ownerIs, nameIs, Json.requireNonBlank,
      ownerWord.spoken, nameWord.spoken, IsWord.iff_isSearchWord.mp ownerWord,
      IsWord.iff_isSearchWord.mp nameWord]

theorem IsRepository.object {value : Json} {repository : Repository}
    (found : IsRepository value repository) : ∃ members, value = .object members := by
  cases found
  exact ⟨_, rfl⟩

theorem isNumbered_iff {value : Json} {number : Int} :
    IsNumbered value number ↔
      (∃ members, value = .object members) ∧
        Event.valueAt value ["number"] = .integer number ∧ 1 ≤ number := by
  constructor
  · intro numbered
    rcases numbered with ⟨numberIs, positive⟩
    exact ⟨⟨_, rfl⟩, numberIs, positive⟩
  · intro shape
    rcases shape with ⟨⟨members, rfl⟩, numberIs, positive⟩
    exact .numbered numberIs positive

theorem isAuthor_iff {user : Json} :
    IsAuthor user ↔
      (∃ members, user = .object members) ∧
        ∃ login : String, Event.valueAt user ["login"] = .text login ∧ IsWord login := by
  constructor
  · intro author
    rcases author with ⟨loginIs, word⟩
    exact ⟨⟨_, rfl⟩, _, loginIs, word⟩
  · intro shape
    rcases shape with ⟨⟨members, rfl⟩, login, loginIs, word⟩
    exact .author loginIs word

theorem checkedIssue_eq_ok_iff {issue : Json} {number : Int} :
    checkedIssue issue = .ok number ↔ IsNumbered issue number := by
  simp only [isNumbered_iff, checkedIssue, Except.bind_eq_ok_iff, Json.requireObject_eq_ok_iff,
    Json.requirePositive_eq_ok_iff]
  simp

theorem checkedPull_eq_ok_iff {pull : Json} {number : Int} :
    checkedPull pull = .ok number ↔
      IsNumbered pull number ∧
        ((Event.valueAt pull ["user"]).isFalsy = true ∨
          IsAuthor (Event.valueAt pull ["user"])) := by
  simp only [isNumbered_iff, isAuthor_iff, checkedPull, Except.bind_eq_ok_iff,
    Json.requireObject_eq_ok_iff, Json.requirePositive_eq_ok_iff]
  cases absent : (Event.valueAt pull ["user"]).isFalsy with
  | true => simp [Json.isTruthy, absent, and_assoc]
  | false =>
      simp only [Json.isTruthy, absent, Bool.not_false, if_true, Json.requireLogin,
        Except.bind_eq_ok_iff, Json.requireObject_eq_ok_iff, requireSearchWord_eq_ok_iff_isWord]
      constructor
      · intro checked
        rcases checked with ⟨_, members, _, numberIs, _, user, login, loginIs, made⟩
        cases made
        exact ⟨⟨members, numberIs⟩, .inr ⟨user, login, loginIs⟩⟩
      · intro shape
        rcases shape with ⟨⟨members, numberIs⟩, falsy | ⟨user, login, loginIs⟩⟩
        · cases falsy
        · exact ⟨(), members, number, numberIs, (), user, login, loginIs, rfl⟩

theorem checkedComment_eq_ok_iff {comment : Json} :
    checkedComment comment = .ok () ↔ IsComment comment := by
  constructor
  · intro checked
    simp only [checkedComment, Except.bind_eq_ok_iff, Json.requireObject_eq_ok_iff,
      requireSearchWord_eq_ok_iff_isWord] at checked
    rcases checked with ⟨_, ⟨members, rfl⟩, _, user, login, loginIs, checked⟩
    have author : IsAuthor (Json.lookup members "user") := isAuthor_iff.mpr ⟨user, login, loginIs⟩
    cases bodyIs : Json.lookup members "body" with
    | text body => exact .comment author bodyIs
    | _ => simp [Event.valueAt_object, bodyIs] at checked
  · intro commented
    rcases commented with ⟨author, bodyIs⟩
    rcases isAuthor_iff.mp author with ⟨⟨user, userIs⟩, login, loginIs, word⟩
    rw [userIs] at loginIs
    have checked : (Json.lookup user "login").requireSearchWord "context.payload.comment.user.login"
        "comment.user.login" = .ok login := requireSearchWord_eq_ok_iff_isWord.mpr ⟨loginIs, word⟩
    simp [checkedComment, Json.requireObject, Event.valueAt_object, userIs, bodyIs, checked]

/-! ## Accepted events -/

theorem eq_shown_of_known {name : Wording} (known : name.shown ∈ pullEvents ++ issueEvents) :
    name = (name.shown : Wording) := by
  have plain : ∀ event ∈ pullEvents ++ issueEvents, '\ufffd' ∉ event.toList := by decide
  exact Wording.eq_coe_of_not_mem (plain _ known)

theorem ofEvent_eq_ok_iff_describes {event : Event} {settings : Settings} {context : Context} :
    ofEvent true (some event) settings = .ok context ↔ Describes settings event context := by
  constructor
  · intro accepted
    rcases event with ⟨name, coordinates, payload⟩
    simp only [ofEvent, Bool.not_true, Bool.false_eq_true, if_false, Except.bind_eq_ok_iff,
      Json.requireNonBlank_eq_ok_iff, Json.requireObject_eq_ok_iff,
      checkedRepository_eq_ok_iff] at accepted
    rcases accepted with ⟨_, -, _, ⟨payload, rfl⟩, repository, found, name, ⟨rfl, -⟩, accepted⟩
    split at accepted
    · rename_i kind
      rcases Except.bind_eq_ok_iff.mp accepted with ⟨number, checked, made⟩
      cases made
      rcases checkedPull_eq_ok_iff.mp checked with ⟨numbered, author⟩
      have known := List.mem_append_left issueEvents (List.contains_iff_mem.mp kind)
      rw [eq_shown_of_known known]
      exact .pull (by simpa [pullEvents] using kind) found numbered author
    · split at accepted
      · rename_i kind
        have known := List.mem_append_right pullEvents (List.contains_iff_mem.mp kind)
        rw [eq_shown_of_known known]
        rcases Except.bind_eq_ok_iff.mp accepted with ⟨number, checked, accepted⟩
        have numbered := checkedIssue_eq_ok_iff.mp checked
        split at accepted
        · rename_i isComment
          rcases Except.bind_eq_ok_iff.mp accepted with ⟨_, commented, made⟩
          cases made
          rw [isComment]
          exact .comment found numbered (checkedComment_eq_ok_iff.mp commented)
        · rename_i other
          have isIssue : name.shown = "issues" := by simpa [issueEvents, other] using kind
          cases accepted
          rw [isIssue]
          exact .issue found numbered
      · cases accepted
  · intro described
    cases described with
    | @pull name _ _ _ _ kind found numbered author =>
        rcases found.object with ⟨members, rfl⟩
        have located := checkedRepository_eq_ok_iff.mpr found
        have checked := checkedPull_eq_ok_iff.mpr ⟨numbered, author⟩
        have named : (Json.text name).requireNonBlank "context.eventName" = .ok name := by
          rcases kind with rfl | rfl <;> rfl
        simp [ofEvent, Json.requireObject, located, named, pullEvents, kind, Event.valueAt_object,
          checked]
    | issue found numbered =>
        rcases found.object with ⟨members, rfl⟩
        have located := checkedRepository_eq_ok_iff.mpr found
        have checked := checkedIssue_eq_ok_iff.mpr numbered
        have named : (Json.text "issues").requireNonBlank "context.eventName" = .ok "issues" := rfl
        simp [ofEvent, Json.requireObject, located, named, pullEvents, issueEvents, commentEvent,
          Event.valueAt_object, checked]
    | comment found numbered commented =>
        rcases found.object with ⟨members, rfl⟩
        have located := checkedRepository_eq_ok_iff.mpr found
        have checked := checkedIssue_eq_ok_iff.mpr numbered
        have said := checkedComment_eq_ok_iff.mpr commented
        have named : (Json.text "issue_comment").requireNonBlank "context.eventName" =
            .ok "issue_comment" := rfl
        simp [ofEvent, Json.requireObject, located, named, pullEvents, issueEvents, commentEvent,
          Event.valueAt_object, checked, said]

end Context

end Steward
