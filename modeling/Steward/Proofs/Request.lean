import Steward.Proofs.Course
import Steward.Proofs.Json
import Steward.Search

/-! The requests that the bots make, as data: the address `base` is that of the service, and the
rest is what the request is about. Each of the service's jobs makes one of them. -/

namespace Steward

namespace Request

def post (base : String) (path : Wording) (body : Json) : Request :=
  ⟨"POST", Service.addressOf base path, body, .null⟩

def get (base : String) (path : Wording) (parameters : Json) : Request :=
  ⟨"GET", Service.addressOf base path, .null, parameters⟩

/-! ## Comments -/

def reaction (base : String) (repository : Repository) (comment : Json) : Request :=
  post base (s!"{repository.path}/issues/comments/" ++ comment.display ++ "/reactions")
    (.object [("content", .text "+1")])

def comment (base : String) (repository : Repository) (number : Int) (body : Wording) : Request :=
  post base s!"{repository.issuePath number}/comments" (.object [("body", .text body)])

/-! ## Searches -/

def count (base : String) (query : Wording) : Request :=
  post base "graphql" (.object [("query", .text Search.countQuery),
    ("variables", .object [("searchQuery", .text query)])])

theorem count_injective {base : String} {first second : Wording}
    (equal : count base first = count base second) : first = second := by
  simpa [count, post] using congrArg body equal

/-! ## Changes -/

def assignees (base : String) (repository : Repository) (number : Int) (logins : List Wording) :
    Request :=
  post base s!"{repository.issuePath number}/assignees"
    (.object [("assignees", .list (logins.map .text))])

def labelAddition (base : String) (repository : Repository) (number : Int)
    (labels : List Wording) : Request :=
  post base s!"{repository.issuePath number}/labels"
    (.object [("labels", .list (labels.map .text))])

def labelRemoval (base : String) (repository : Repository) (number : Int) (label : String) :
    Request :=
  ⟨"DELETE", Service.address base
    s!"{repository.issuePath number}/labels/{Text.Percent.encode [] label}", .null, .null⟩

/-! ## Pull requests -/

def commits (base : String) (repository : Repository) (number perPage page : Int) : Request :=
  get base s!"{repository.pullPath number}/commits"
    (.object [("per_page", .integer perPage), ("page", .integer page)])

def pull (base : String) (repository : Repository) (number : Int) : Request :=
  get base (repository.pullPath number) .null

def checkRun (base : String) (repository : Repository) (run : Json) : Request :=
  post base s!"{repository.path}/check-runs" run

/-! ## Kinds -/

/-- Requests that leave issues as they are. -/
inductive Idle (base : String) : Request → Prop
  | reaction (repository : Repository) (comment : Json) :
      Idle base (reaction base repository comment)
  | comment (repository : Repository) (number : Int) (body : Wording) :
      Idle base (comment base repository number body)
  | count (query : Wording) : Idle base (count base query)

def topic (request : Request) : Option String :=
  match request.body with
  | .object ((name, _) :: _) => some name.shown
  | _ => none

theorem Idle.topic {base : String} {request : Request} (idle : request.Idle base) :
    request.topic = some "content" ∨ request.topic = some "body" ∨
      request.topic = some "query" := by
  cases idle with
  | reaction => exact .inl rfl
  | comment => exact .inr (.inl rfl)
  | count => exact .inr (.inr rfl)

end Request

namespace Service

variable {station : Station}

theorem takes_call (method : String) (path : Wording) (body parameters : Json) :
    (call method path body parameters).Takes station
      (Course.asks ⟨method, addressOf station.service path, body, parameters⟩ decode) := by
  refine Job.Takes.atStation ?_
  refine Job.Takes.ask (Job.Takes.send _) ?_ nofun
  intro answer _ equal
  cases equal
  exact Job.Takes.ofExcept ⟨answer, rfl, rfl⟩

theorem call_run (method : String) (path : Wording) (body parameters : Json) (session : Session) :
    call method path body parameters station session =
      (decode (Answer.inTurn session.answers 0),
        session.asked ⟨method, addressOf station.service path, body, parameters⟩) := by
  change (Job.send _ >>= fun answer => (liftM (decode answer) : Job Json)) station session = _
  rw [Job.bind_run_ok (Job.send_run _)]
  rfl

theorem takes_createReaction (repository : Repository) (comment : Json) :
    (createReaction repository comment (.text "+1")).Takes station
      (Course.asks (.reaction station.service repository comment) decode) :=
  takes_call _ _ _ _

theorem takes_createComment (repository : Repository) (number : Int) (body : Wording) :
    (createComment repository number (.text body)).Takes station
      (Course.asks (.comment station.service repository number body) decode) :=
  takes_call _ _ _ _

theorem takes_addAssignees (repository : Repository) (number : Int) (logins : List Wording) :
    (addAssignees repository number (.list (logins.map .text))).Takes station
      (Course.asks (.assignees station.service repository number logins) decode) :=
  takes_call _ _ _ _

theorem takes_addLabels (repository : Repository) (number : Int) (labels : List Wording) :
    (addLabels repository number (.list (labels.map .text))).Takes station
      (Course.asks (.labelAddition station.service repository number labels) decode) :=
  takes_call _ _ _ _

theorem takes_removeLabel (repository : Repository) (number : Int) (label : String) :
    (removeLabel repository number label).Takes station
      (Course.asks (.labelRemoval station.service repository number label) decode) :=
  takes_call _ _ _ _

theorem takes_getPull (repository : Repository) (number : Int) :
    (getPull repository number).Takes station
      (Course.asks (.pull station.service repository number) decode) :=
  takes_call _ _ _ _

theorem takes_listCommits (repository : Repository) (number perPage page : Int) :
    (listCommits repository number perPage page).Takes station
      (Course.asks (.commits station.service repository number perPage page) decode) :=
  takes_call _ _ _ _

theorem takes_createCheckRun (repository : Repository) (run : Json) :
    (createCheckRun repository run).Takes station
      (Course.asks (.checkRun station.service repository run) decode) :=
  takes_call _ _ _ _

/-- A reply carries a value if it is that of a success, and its body the value or empty. -/
theorem decode_reply_eq_ok_iff {status : Int} {body : String} {value : Json} :
    decode (.reply status body) = .ok value ↔
      status < 400 ∧ if body = "" then value = .object [] else Json.read body = .ok value := by
  have accepted : status < 400 ↔ ¬400 ≤ status := by omega
  by_cases rejected : 400 ≤ status
  · simp [decode, accepted, rejected]
  · by_cases empty : body = ""
    · simp [decode, accepted, rejected, empty, eq_comm]
    · simp [decode, accepted, rejected, empty, Except.mapError_eq_ok_iff]

inductive Carries : Answer → Json → Prop
  | silent {status : Int} (success : status < 400) : Carries (.reply status "") (.object [])
  | telling {status : Int} {body : String} {value : Json} (success : status < 400)
      (content : body ≠ "") (read : Json.read body = .ok value) : Carries (.reply status body) value

inductive Denies : Answer → Failure → Prop
  | refused {reason : String} : Denies (.refusal reason) (.refused reason)
  | rejected {status : Int} {body : String} (error : 400 ≤ status) :
      Denies (.reply status body) (rejection status body)
  | unreadable {status : Int} {body : String} {fault : Json.ReadFault} (success : status < 400)
      (content : body ≠ "") (read : Json.read body = .error fault) :
      Denies (.reply status body) (.unreadable fault)

theorem decode_eq_ok_iff {answer : Answer} {value : Json} :
    decode answer = .ok value ↔ Carries answer value := by
  constructor
  · intro decoded
    cases answer with
    | refusal reason => cases decoded
    | reply status body =>
        rcases decode_reply_eq_ok_iff.mp decoded with ⟨success, read⟩
        by_cases empty : body = ""
        · rw [if_pos empty] at read
          subst empty read
          exact .silent success
        · rw [if_neg empty] at read
          exact .telling success empty read
  · intro carries
    cases carries with
    | silent success => exact decode_reply_eq_ok_iff.mpr ⟨success, rfl⟩
    | telling success content read =>
        exact decode_reply_eq_ok_iff.mpr ⟨success, by rwa [if_neg content]⟩

theorem decode_eq_error_iff {answer : Answer} {failure : Failure} :
    decode answer = .error failure ↔ Denies answer failure := by
  constructor
  · intro decoded
    cases answer with
    | refusal reason =>
        cases decoded
        exact .refused
    | reply status body =>
        by_cases error : 400 ≤ status
        · rw [decode, if_pos error] at decoded
          cases decoded
          exact .rejected error
        · by_cases empty : body = ""
          · rw [decode, if_neg error, if_pos empty] at decoded
            cases decoded
          · rw [decode, if_neg error, if_neg empty] at decoded
            cases read : Json.read body with
            | ok value => rw [read] at decoded; cases decoded
            | error fault =>
                rw [read] at decoded
                cases decoded
                exact .unreadable (Int.not_le.mp error) empty read
  · intro denies
    cases denies with
    | refused => rfl
    | rejected error => exact if_pos error
    | unreadable success content read =>
        rw [decode, if_neg (Int.not_le.mpr success), if_neg content, read]
        rfl

inductive Accepts : Answer → Prop
  | silent {status : Int} (success : status < 400) : Accepts (.reply status "")
  | telling {status : Int} {body : String} {value : Json} (success : status < 400)
      (read : Json.read body = .ok value) : Accepts (.reply status body)

theorem accepts_iff {answer : Answer} : Accepts answer ↔ ∃ value, decode answer = .ok value := by
  constructor
  · intro accepts
    cases accepts with
    | silent success => exact ⟨_, decode_eq_ok_iff.mpr (.silent success)⟩
    | @telling status body value success read =>
        by_cases empty : body = ""
        · exact ⟨_, decode_reply_eq_ok_iff.mpr ⟨success, by rw [if_pos empty]⟩⟩
        · exact ⟨value, decode_eq_ok_iff.mpr (.telling success empty read)⟩
  · intro carried
    rcases carried with ⟨value, decoded⟩
    cases decode_eq_ok_iff.mp decoded with
    | silent success => exact .silent success
    | telling success content read => exact .telling success read

theorem Denies.not_accepts {answer : Answer} {failure : Failure} (denies : Denies answer failure) :
    ¬Accepts answer := by
  intro accepts
  rcases accepts_iff.mp accepts with ⟨value, decoded⟩
  cases decoded.symm.trans (decode_eq_error_iff.mpr denies)

def dataIn (answer : Answer) : Except Failure Json := do queryData (← decode answer)

theorem takes_query (query : Wording) :
    (Service.query (.text Search.countQuery)
      (.object [("searchQuery", .text query)])).Takes station
      (Course.asks (.count station.service query) dataIn) := by
  apply Job.Takes.ask (takes_call _ _ _ _)
  · intro answer value decoded
    refine Job.Takes.ofExcept ⟨answer, rfl, ?_⟩
    simp [dataIn, decoded]
  · intro answer failure decoded
    exact ⟨answer, rfl, by simp [dataIn, decoded]⟩

end Service

end Steward
