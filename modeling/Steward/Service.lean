import Steward.Job
import Steward.Json.Writer
import Steward.Text.Percent

/-! The service that keeps issues, pull requests and commits: its requests, and the reading of its
answers. -/

namespace Steward

structure Repository where
  owner : String
  name : String
deriving DecidableEq, Repr

def Repository.path (repository : Repository) : String :=
  s!"repos/{repository.owner}/{repository.name}"

def Repository.issuePath (repository : Repository) (number : Int) : String :=
  s!"{repository.path}/issues/{number}"

def Repository.pullPath (repository : Repository) (number : Int) : String :=
  s!"{repository.path}/pulls/{number}"

namespace Service

def standardAddress : String := "https://api.github.com"

def trimAddress (address : String) : String :=
  String.ofList (address.toList.reverse.dropWhile (· = '/')).reverse

def address (base path : String) : String :=
  base ++ "/" ++ String.ofList (path.toList.dropWhile (· = '/'))

def addressOf (base : String) (path : Wording) : Wording := ⟨address base path.text, path.rest⟩

def headers (token : String) : List (String × String) :=
  [("Authorization", s!"Bearer {token}"), ("Accept", "application/vnd.github+json"),
   ("X-GitHub-Api-Version", "2022-11-28")]

def addressFrom (environment : Environment) : String :=
  trimAddress ((environment.get? "GITHUB_API_URL").getD standardAddress)

def token : Job String := do
  match (← Job.station).environment.nonEmpty? "GITHUB_TOKEN" with
  | some token => return token
  | none =>
      Job.notify .tokenMissing
      Job.fail (.exit 1)

/-! ## Answers -/

/-- What an answer of an error status comes to: its own message where it has one, else all of it.
Only an answer that is nested too deep cannot be looked at. -/
def rejection (status : Int) (body : String) : Failure :=
  let whole := Failure.rejected status s!"GitHub API error: {status} - {body}"
  match Json.read body with
  | .ok (.object members) =>
      let message := Json.lookup members "message"
      if message.isTruthy then .rejected status (message.display ++ s!" ({status})") else whole
  | .ok _ => whole
  | .error fault => if fault.reason.isNesting then .unreadable fault else whole

def decode : Answer → Except Failure Json
  | .refusal reason => .error (.refused reason)
  | .reply status body =>
      if 400 ≤ status then .error (rejection status body)
      else if body = "" then .ok (.object [])
      else (Json.read body).mapError .unreadable

def call (method : String) (path : Wording) (body parameters : Json) : Job Json := do
  let answer ← Job.send ⟨method, addressOf (← Job.station).service path, body, parameters⟩
  decode answer

def post (path : Wording) (body : Json) : Job Json := call "POST" path body .null

def get (path : Wording) (parameters : Json) : Job Json := call "GET" path .null parameters

/-! ## Issues -/

def addLabels (repository : Repository) (number : Int) (labels : Json) : Job Json :=
  post s!"{repository.issuePath number}/labels" (.object [("labels", labels)])

def removeLabel (repository : Repository) (number : Int) (label : String) : Job Json :=
  call "DELETE" s!"{repository.issuePath number}/labels/{Text.Percent.encode [] label}" .null .null

def addAssignees (repository : Repository) (number : Int) (assignees : Json) : Job Json :=
  post s!"{repository.issuePath number}/assignees" (.object [("assignees", assignees)])

def createComment (repository : Repository) (number : Int) (body : Json) : Job Json :=
  post s!"{repository.issuePath number}/comments" (.object [("body", body)])

def createReaction (repository : Repository) (comment content : Json) : Job Json :=
  post (s!"{repository.path}/issues/comments/" ++ comment.display ++ "/reactions")
    (.object [("content", content)])

/-! ## Pull requests and check runs -/

def getPull (repository : Repository) (number : Int) : Job Json :=
  get (repository.pullPath number) .null

def listCommits (repository : Repository) (number perPage page : Int) : Job Json :=
  get s!"{repository.pullPath number}/commits"
    (.object [("per_page", .integer perPage), ("page", .integer page)])

def createCheckRun (repository : Repository) (run : Json) : Job Json :=
  post s!"{repository.path}/check-runs" run

/-! ## Queries -/

def queryError : Json → Wording
  | .object members =>
      match members.lookup ("message" : Wording) with
      | some message => message.display
      | none => (Json.object members).display
  | other => other.display

/-- The data in the answer to a query, which may be an error although its status is none. -/
def queryData (answer : Json) : Except Failure Json :=
  match answer with
  | .object members => do
      let errors := Json.lookup members "errors"
      if errors.isTruthy then
        let messages := (← errors.elements).map queryError
        .error (.rejected 200 ("GraphQL error: " ++ Wording.joined "; " messages))
      return (Json.lookup members "data").orEmpty
  | _ => .error (.rejected 200 "GraphQL error: unexpected response")

def query (text bindings : Json) : Job Json := do
  let answer ← post "graphql" (.object [("query", text), ("variables", bindings.orEmpty)])
  queryData answer

end Service

end Steward
