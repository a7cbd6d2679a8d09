import Steward.Proofs.Request
import Steward.Proofs.Wording

/-! Addresses of requests. All but that of a query lie in a repository, and their ends tell what a
request is about. -/

namespace Steward

namespace Service

theorem toList_address {base path : String} (unslashed : path.toList.head? ≠ some '/') :
    (address base path).toList = base.toList ++ '/' :: path.toList := by
  have whole : path.toList.dropWhile (· = '/') = path.toList := by
    cases characters : path.toList with
    | nil => rfl
    | cons first rest =>
        have other : first ≠ '/' := by simpa [characters] using unslashed
        simp [other]
  simp [address, whole]

theorem addressOf_append {base front : String} {path : Wording}
    (unslashed : (front ++ path.text).toList.head? ≠ some '/') :
    addressOf base (front ++ path) = (base ++ "/" ++ front : String) ++ path := by
  have whole : address base (front ++ path.text) = base ++ "/" ++ front ++ path.text := by
    rw [← String.toList_inj, toList_address unslashed]
    simp
  exact congrArg (Wording.mk · path.rest) whole

end Service

namespace Repository

theorem toList_path (repository : Repository) :
    repository.path.toList =
      "repos/".toList ++ repository.owner.toList ++ '/' :: repository.name.toList := by
  simp [path, toString]

theorem toList_issuePath (repository : Repository) (number : Int) :
    (repository.issuePath number).toList =
      repository.path.toList ++ "/issues/".toList ++ (toString number).toList := by
  simp [issuePath, toString]

theorem toList_address (base : String) (repository : Repository) (tail : String) :
    (Service.address base (repository.path ++ tail)).toList =
      base.toList ++ '/' :: repository.path.toList ++ tail.toList := by
  have unslashed : (repository.path ++ tail).toList.head? ≠ some '/' := by simp [toList_path]
  rw [Service.toList_address unslashed, String.toList_append, List.append_assoc, List.cons_append]

theorem toList_issueAddress (base : String) (repository : Repository) (number : Int)
    (tail : String) :
    (Service.address base (repository.issuePath number ++ tail)).toList =
      base.toList ++ '/' :: (repository.issuePath number).toList ++ tail.toList := by
  have path : repository.issuePath number ++ tail =
      repository.path ++ ("/issues/" ++ toString number ++ tail) := by
    simp [issuePath, toString, String.append_assoc]
  rw [path, toList_address, toList_issuePath]
  simp

theorem toList_pullAddress (base : String) (repository : Repository) (number : Int)
    (tail : String) :
    (Service.address base (repository.pullPath number ++ tail)).toList =
      base.toList ++ '/' :: (repository.pullPath number).toList ++ tail.toList := by
  have path : repository.pullPath number ++ tail =
      repository.path ++ ("/pulls/" ++ toString number ++ tail) := by
    simp [pullPath, toString, String.append_assoc]
  have whole : (repository.pullPath number).toList =
      repository.path.toList ++ "/pulls/".toList ++ (toString number).toList := by
    simp [pullPath, toString]
  rw [path, toList_address, whole]
  simp

end Repository

/-! ## Assignments -/

namespace Request

def isAssignment (request : Request) : Bool :=
  "/assignees".toList.isSuffixOf request.url.shown.toList

variable {base : String} {repository : Repository} {number : Int}

theorem isAssignment_of_ends {request : Request} {address : String} {front ending : List Char}
    (located : request.url.shown = address) (ends : address.toList = front ++ ending) :
    request.isAssignment =
      "/assignees".toList.reverse.isPrefixOf (ending.reverse ++ front.reverse) := by
  rw [isAssignment, located, ends, List.isSuffixOf, List.reverse_append]

theorem url_assignees (logins : List Wording) :
    (assignees base repository number logins).url =
      Service.address base (repository.issuePath number ++ "/assignees") := rfl

theorem url_labelAddition (labels : List Wording) :
    (labelAddition base repository number labels).url =
      Service.address base (repository.issuePath number ++ "/labels") := rfl

theorem url_comment (body : Wording) :
    (comment base repository number body).url =
      Service.address base (repository.issuePath number ++ "/comments") := rfl

theorem isAssignment_assignees (logins : List Wording) :
    (assignees base repository number logins).isAssignment = true := by
  rw [isAssignment_of_ends (congrArg Wording.shown (url_assignees logins))
    (repository.toList_issueAddress base number "/assignees")]
  rfl

theorem isAssignment_labelAddition (labels : List Wording) :
    (labelAddition base repository number labels).isAssignment = false := by
  rw [isAssignment_of_ends (congrArg Wording.shown (url_labelAddition labels))
    (repository.toList_issueAddress base number "/labels")]
  rfl

theorem url_labelRemoval (label : String) :
    (labelRemoval base repository number label).url =
      Service.address base
        (repository.issuePath number ++ ("/labels/" ++ Text.Percent.encode [] label)) := by
  simp [labelRemoval, toString, String.append_assoc]

theorem isAssignment_readyRemoval :
    (labelRemoval base repository number Label.readyForDev).isAssignment = false := by
  rw [isAssignment_of_ends (congrArg Wording.shown (url_labelRemoval _))
    (repository.toList_issueAddress base number _)]
  rfl

theorem url_reaction (comment : Json) :
    (reaction base repository comment).url =
      (base ++ "/" ++ s!"{repository.path}/issues/comments/" : String) ++ comment.display ++
        "/reactions" := by
  have unslashed (tail : String) :
      (s!"{repository.path}/issues/comments/" ++ tail).toList.head? ≠ some '/' := by
    simp [Repository.toList_path, toString]
  rw [reaction, post, Wording.append_assoc, Service.addressOf_append (unslashed _),
    Wording.append_assoc]

theorem shown_url_reaction (comment : Json) :
    (reaction base repository comment).url.shown =
      base ++ "/" ++ s!"{repository.path}/issues/comments/" ++ comment.display.shown ++
        "/reactions" := by
  rw [url_reaction]
  simp

theorem Idle.not_isAssignment {request : Request} (idle : request.Idle base) :
    request.isAssignment = false := by
  cases idle with
  | comment repository number body =>
      rw [isAssignment_of_ends (congrArg Wording.shown (url_comment body))
        (repository.toList_issueAddress base number "/comments")]
      rfl
  | reaction repository comment =>
      rw [isAssignment_of_ends (shown_url_reaction comment) (String.toList_append ..)]
      rfl
  | count query =>
      have unslashed : "graphql".toList.head? ≠ some '/' := by decide
      have located : (Request.count base query).url = Service.address base "graphql" := rfl
      rw [isAssignment_of_ends (congrArg Wording.shown located) (Service.toList_address unslashed)]
      rfl

/-! ## Pull requests -/

theorem url_commits_ne_url_pull (perPage page : Int) :
    (commits base repository number perPage page).url ≠ (pull base repository number).url := by
  intro same
  have first := repository.toList_pullAddress base number "/commits"
  have second := repository.toList_pullAddress base number ""
  rw [String.append_empty] at second
  have equal := first.symm.trans ((congrArg (String.toList ·.text) same).trans second)
  exact absurd (List.append_cancel_left equal) (by decide)

/-! ## Posts -/

def posts (ending : String) (request : Request) : Bool :=
  request.method == "POST" && ending.toList.isSuffixOf request.url.shown.toList

theorem posts_of_ends {ending : String} {request : Request} {address : String}
    {front tail : List Char} (posted : request.method = "POST")
    (located : request.url.shown = address) (ends : address.toList = front ++ tail) :
    request.posts ending = ending.toList.reverse.isPrefixOf (tail.reverse ++ front.reverse) := by
  rw [posts, posted, located, ends, List.isSuffixOf, List.reverse_append]
  simp

theorem posts_comment (ending : String) (body : Wording) :
    (comment base repository number body).posts ending =
      ending.toList.reverse.isPrefixOf ("/comments".toList.reverse ++
        (base.toList ++ '/' :: (repository.issuePath number).toList).reverse) :=
  posts_of_ends rfl rfl (repository.toList_issueAddress base number "/comments")

theorem posts_reaction (comment : Json) :
    (reaction base repository comment).posts "/reactions" = true := by
  rw [posts_of_ends rfl (shown_url_reaction comment) (String.toList_append ..)]
  rfl

theorem posts_checkRun (ending : String) (run : Json) :
    (checkRun base repository run).posts ending =
      ending.toList.reverse.isPrefixOf ("/check-runs".toList.reverse ++
        (base.toList ++ '/' :: repository.path.toList).reverse) :=
  posts_of_ends rfl rfl (repository.toList_address base "/check-runs")

theorem posts_get (ending : String) (path : Wording) (parameters : Json) :
    (get base path parameters).posts ending = false := rfl

end Request

def Exchange.posting (ending : String) (exchanges : List Exchange) : List Exchange :=
  exchanges.filter fun exchange => exchange.request.posts ending

namespace Exchange

variable {ending : String} {exchange : Exchange} {exchanges : List Exchange}

theorem mem_posting : exchange ∈ posting ending exchanges ↔
    exchange ∈ exchanges ∧ exchange.request.posts ending = true :=
  List.mem_filter

theorem posting_append (first second : List Exchange) :
    posting ending (first ++ second) = posting ending first ++ posting ending second :=
  List.filter_append first second

theorem posting_cons_of_posts (posts : exchange.request.posts ending = true) :
    posting ending (exchange :: exchanges) = exchange :: posting ending exchanges :=
  List.filter_cons_of_pos posts

theorem posting_cons_of_not (other : exchange.request.posts ending = false) :
    posting ending (exchange :: exchanges) = posting ending exchanges :=
  List.filter_cons_of_neg (by simp [other])

theorem posting_eq_nil (others : ∀ exchange ∈ exchanges, exchange.request.posts ending = false) :
    posting ending exchanges = [] :=
  List.filter_eq_nil_iff.mpr fun exchange member => by simp [others exchange member]

end Exchange

end Steward
