import Steward.Bot
import Steward.Proofs.Address
import Steward.Proofs.Word

/-! What bots may request, spelled out: methods, addresses and bodies as they are sent, for the
issue or pull request of an event and nothing else. -/

namespace Steward

/-! ## Addresses -/

namespace Repository

variable (base : String) (repository : Repository) (number : Int)

def url : String := s!"{base}/repos/{repository.owner}/{repository.name}"

def issueUrl : String := s!"{repository.url base}/issues/{number}"

def pullUrl : String := s!"{repository.url base}/pulls/{number}"

theorem address_path (tail : String) :
    Service.address base (repository.path ++ tail) = repository.url base ++ tail := by
  rw [← String.toList_inj, toList_address, toList_path]
  simp [url, toString]

theorem address_issuePath (tail : String) :
    Service.address base (repository.issuePath number ++ tail) =
      repository.issueUrl base number ++ tail := by
  have path : repository.issuePath number ++ tail =
      repository.path ++ ("/issues/" ++ toString number ++ tail) := by
    simp [issuePath, toString, String.append_assoc]
  rw [path, address_path]
  simp [issueUrl, toString, String.append_assoc]

theorem address_pullPath (tail : String) :
    Service.address base (repository.pullPath number ++ tail) =
      repository.pullUrl base number ++ tail := by
  have path : repository.pullPath number ++ tail =
      repository.path ++ ("/pulls/" ++ toString number ++ tail) := by
    simp [pullPath, toString, String.append_assoc]
  rw [path, address_path]
  simp [pullUrl, toString, String.append_assoc]

end Repository

namespace Request

variable (base : String) (repository : Repository) (number : Int)

theorem post_path (tail : String) (body : Json) :
    post base (repository.path ++ tail : String) body =
      ⟨"POST", (repository.url base ++ tail : String), body, .null⟩ := by
  rw [post, Service.addressOf, Repository.address_path]

theorem post_issuePath (tail : String) (body : Json) :
    post base (repository.issuePath number ++ tail : String) body =
      ⟨"POST", (repository.issueUrl base number ++ tail : String), body, .null⟩ := by
  rw [post, Service.addressOf, Repository.address_issuePath]

theorem get_pullPath (tail : String) (parameters : Json) :
    get base (repository.pullPath number ++ tail : String) parameters =
      ⟨"GET", (repository.pullUrl base number ++ tail : String), .null, parameters⟩ := by
  rw [get, Service.addressOf, Repository.address_pullPath]

theorem comment_eq (body : Wording) :
    comment base repository number body =
      ⟨"POST", s!"{repository.issueUrl base number}/comments", .object [("body", .text body)],
        .null⟩ :=
  post_issuePath base repository number "/comments" _

theorem reaction_eq (comment : Json) :
    reaction base repository comment =
      ⟨"POST", s!"{repository.url base}/issues/comments/" ++ comment.display ++ "/reactions",
        .object [("content", .text "+1")], .null⟩ := by
  have front : base ++ "/" ++ s!"{repository.path}/issues/comments/" =
      s!"{repository.url base}/issues/comments/" := by
    simp [← String.toList_inj, Repository.toList_path, Repository.url, toString]
  exact congrArg (Request.mk "POST" · (.object [("content", .text "+1")]) .null)
    (front ▸ url_reaction comment)

theorem count_eq (query : Wording) :
    count base query =
      ⟨"POST", s!"{base}/graphql",
        .object [("query", .text Search.countQuery),
          ("variables", .object [("searchQuery", .text query)])], .null⟩ := by
  have address : Service.address base "graphql" = s!"{base}/graphql" := by
    rw [← String.toList_inj, Service.toList_address (by decide)]
    simp [toString]
  rw [count, post, Service.addressOf, address]

theorem assignees_eq (login : String) :
    assignees base repository number [login] =
      ⟨"POST", s!"{repository.issueUrl base number}/assignees",
        .object [("assignees", .list [.text login])], .null⟩ :=
  post_issuePath base repository number "/assignees" _

theorem labelAddition_eq (label : String) :
    labelAddition base repository number [label] =
      ⟨"POST", s!"{repository.issueUrl base number}/labels",
        .object [("labels", .list [.text label])], .null⟩ :=
  post_issuePath base repository number "/labels" _

theorem readyRemoval_eq :
    labelRemoval base repository number Label.readyForDev =
      ⟨"DELETE", s!"{repository.issueUrl base number}/labels/status%3A%20ready%20for%20dev", .null,
        .null⟩ := by
  have encoded : Text.Percent.encode [] Label.readyForDev = "status%3A%20ready%20for%20dev" := by
    decide
  have url : (labelRemoval base repository number Label.readyForDev).url =
      s!"{repository.issueUrl base number}/labels/status%3A%20ready%20for%20dev" := by
    rw [url_labelRemoval, encoded, Repository.address_issuePath]
    rfl
  exact congrArg (Request.mk "DELETE" · .null .null) url

theorem commits_eq (perPage page : Int) :
    commits base repository number perPage page =
      ⟨"GET", s!"{repository.pullUrl base number}/commits", .null,
        .object [("per_page", .integer perPage), ("page", .integer page)]⟩ :=
  get_pullPath base repository number "/commits" _

theorem pull_eq :
    pull base repository number = ⟨"GET", repository.pullUrl base number, .null, .null⟩ := by
  have whole := get_pullPath base repository number "" .null
  rwa [String.append_empty, String.append_empty] at whole

theorem checkRun_eq (run : Json) :
    checkRun base repository run = ⟨"POST", s!"{repository.url base}/check-runs", run, .null⟩ :=
  post_path base repository "/check-runs" run

end Request

namespace Bot

/-! ## Permissions -/

structure IsLogin (payload : Json) (path : List String) (login : String) : Prop where
  found : Event.valueAt payload path = .text login
  word : IsWord login

theorem IsLogin.ofUser {payload : Json} {part login : String} {members user : List (Wording × Json)}
    (partIs : Event.valueAt payload [part] = .object members)
    (userIs : Json.lookup members "user" = .object user)
    (loginIs : Json.lookup user "login" = .text login)
    (safe : (Json.text login).isSearchWord = true) :
    IsLogin payload [part, "user", "login"] login where
  found := Event.valueAt_login partIs userIs loginIs
  word := IsWord.iff_isSearchWord.mpr safe

inductive Sought : String → String → Prop
  | held : Sought "open" "-label:\"status: blocked\""
  | blocked : Sought "open" "label:\"status: blocked\""
  | completed (level : SkillLevel) : Sought "closed" s!"label:\"{level.label}\""

def searchText (repository : Repository) (state login labels : String) : String :=
  s!"repo:{repository.owner}/{repository.name} is:issue is:{state} assignee:{login} {labels}"

/-- The requests that are permitted to a bot. -/
inductive Permitted (base : String) (repository : Repository) (number : Int) (payload : Json) :
    Bot → Request → Prop
  | comment (bot : Bot) (body : Wording) :
      Permitted base repository number payload bot
        ⟨"POST", s!"{repository.issueUrl base number}/comments", .object [("body", .text body)],
          .null⟩
  | reaction {id : Json} (commentIs : Event.valueAt payload ["comment", "id"] = id) :
      Permitted base repository number payload .comment
        ⟨"POST", s!"{repository.url base}/issues/comments/" ++ id.display ++ "/reactions",
          .object [("content", .text "+1")], .null⟩
  | search {login state labels : String}
      (author : IsLogin payload ["comment", "user", "login"] login)
      (sought : Sought state labels) :
      Permitted base repository number payload .comment
        ⟨"POST", s!"{base}/graphql",
          .object [("query", .text Search.countQuery),
            ("variables", .object
              [("searchQuery", .text (searchText repository state login labels))])],
          .null⟩
  | assignee {login : String} (author : IsLogin payload ["comment", "user", "login"] login) :
      Permitted base repository number payload .comment
        ⟨"POST", s!"{repository.issueUrl base number}/assignees",
          .object [("assignees", .list [.text login])], .null⟩
  | notReady :
      Permitted base repository number payload .comment
        ⟨"DELETE",
          s!"{repository.issueUrl base number}/labels/status%3A%20ready%20for%20dev", .null,
          .null⟩
  | inProgress :
      Permitted base repository number payload .comment
        ⟨"POST", s!"{repository.issueUrl base number}/labels",
          .object [("labels", .list [.text "status: in progress"])], .null⟩
  | commits {bot : Bot} (reads : bot = .commit ∨ bot = .signing) (page : Int) :
      Permitted base repository number payload bot
        ⟨"GET", s!"{repository.pullUrl base number}/commits", .null,
          .object [("per_page", .integer 100), ("page", .integer page)]⟩
  | pull :
      Permitted base repository number payload .commit
        ⟨"GET", repository.pullUrl base number, .null, .null⟩
  | author {login : String} (author : IsLogin payload ["pull_request", "user", "login"] login) :
      Permitted base repository number payload .review
        ⟨"POST", s!"{repository.issueUrl base number}/assignees",
          .object [("assignees", .list [.text login])], .null⟩
  | reviewLabel {label : String}
      (one : label = "status: needs review" ∨ label = "status: needs revision") :
      Permitted base repository number payload .review
        ⟨"POST", s!"{repository.issueUrl base number}/labels",
          .object [("labels", .list [.text label])], .null⟩
  | checkRun {run : List (Wording × Json)} (named : Json.lookup run "name" = .text "DCO & GPG")
      (head : Json.lookup run "head_sha" = Event.valueAt payload ["pull_request", "head", "sha"]) :
      Permitted base repository number payload .signing
        ⟨"POST", s!"{repository.url base}/check-runs", .object run, .null⟩

theorem Permitted.ofComment {base : String} {repository : Repository} {number : Int}
    {payload : Json} {bot : Bot} {body : Wording} :
    Permitted base repository number payload bot (.comment base repository number body) := by
  rw [Request.comment_eq]
  exact .comment bot body

end Bot

end Steward
