import Steward.Proofs.Context.Shape

/-! Events read with access that can fail: a member is looked up where there is an object only, and
a value is used by its kind. The checks come before each such access, so that no reading fails but
with the fault that a check has found. -/

namespace Steward

namespace Context

/-! ## Readings -/

def require {α : Type} (check : Except EventFault α) : Except Failure α :=
  check.mapError Failure.event

def readRepository (value : Json) : Except Failure Repository := do
  let owner ← value.field "owner"
  let name ← value.field "repo"
  let ownerText ← require (owner.requireNonBlank "context.repo.owner")
  let nameText ← require (name.requireNonBlank "context.repo.repo")
  if owner.isSearchWord && name.isSearchWord then return ⟨ownerText.shown, nameText.shown⟩
  else require (.error (.unsafeCharacters "owner or repo"))

def readNumber (value : Json) (label : String) : Except Failure Int := do
  let _ ← require ((← value.field "number").requirePositive label)
  match ← value.member "number" with
  | .integer number => .ok number
  | other => .error (.notByName other.kind)

def readAuthor (user : Json) : Except Failure Unit := do
  require (user.requireObject "pull_request.user")
  let _ ← require ((← user.field "login").requireNonBlank "pull_request.user.login")
  if (← user.member "login").isSearchWord then return ()
  else require (.error (.unsafeCharacters "pull_request.user.login"))

def readPull (pull : Json) : Except Failure Int := do
  require (pull.requireObject "context.payload.pull_request")
  let number ← readNumber pull "pull_request.number"
  let user ← pull.field "user"
  if user.isTruthy then readAuthor user
  return number

def readIssue (issue : Json) : Except Failure Int := do
  require (issue.requireObject "context.payload.issue")
  readNumber issue "issue.number"

def readComment (comment : Json) : Except Failure Unit := do
  require (comment.requireObject "context.payload.comment")
  require ((← comment.field "user").requireObject "context.payload.comment.user")
  let login ← (← comment.member "user").field "login"
  let _ ← require (login.requireSearchWord "context.payload.comment.user.login"
    "comment.user.login")
  match ← comment.field "body" with
  | .text _ => return ()
  | _ => require (.error .bodyNotText)

/-- The context of an event, where nothing is looked up that the checks have not allowed. -/
def read (hasClient : Bool) (event : Option Event) (settings : Settings) :
    Except Failure Context := do
  if !hasClient then require (.error (.missing "client"))
  match event with
  | none => require (.error (.missing "context"))
  | some event => do
      require (event.repository.requireObject "context.repo")
      require (event.payload.requireObject "context.payload")
      let repository ← readRepository event.repository
      let named ← require (event.name.requireNonBlank "context.eventName")
      let name := named.shown
      if pullEvents.contains name then do
        let pull ← event.payload.field "pull_request"
        let number ← readPull pull
        return ⟨repository, name, number, none, some pull, none, settings⟩
      else if issueEvents.contains name then do
        let issue ← event.payload.field "issue"
        let number ← readIssue issue
        if name = commentEvent then
          let comment ← event.payload.field "comment"
          readComment comment
          return ⟨repository, name, number, some issue, none, some comment, settings⟩
        else return ⟨repository, name, number, some issue, none, none, settings⟩
      else require (.error (.unsupported named))

/-! ## Guards -/

@[simp] theorem require_ok {α : Type} (value : α) : require (.ok value) = .ok value := rfl

@[simp] theorem require_error {α : Type} (fault : EventFault) :
    (require (.error fault) : Except Failure α) = .error (.event fault) := rfl

@[simp] theorem require_bind {α β : Type} (check : Except EventFault α)
    (next : α → Except EventFault β) :
    require (check >>= next) = require check >>= fun value => require (next value) :=
  Except.mapError_bind

@[simp] theorem require_ite {α : Type} (condition : Prop) [Decidable condition]
    (first second : Except EventFault α) :
    require (if condition then first else second) =
      if condition then require first else require second :=
  apply_ite require condition first second

theorem readRepository_eq (members : List (Wording × Json)) :
    readRepository (.object members) = require (checkedRepository (.object members)) := by
  simp [readRepository, checkedRepository, Json.field, Event.valueAt_object]

theorem readNumber_eq (members : List (Wording × Json)) (label : String) :
    readNumber (.object members) label =
      require ((Json.lookup members "number").requirePositive label) := by
  cases checked : (Json.lookup members "number").requirePositive label with
  | error fault => simp [readNumber, Json.field, checked]
  | ok number =>
      have numberIs := (Json.requirePositive_eq_ok_iff.mp checked).1
      simp [readNumber, Json.field, checked, Json.member_eq_ok numberIs]

theorem readAuthor_eq (user : Json) :
    readAuthor user =
      require (do
        user.requireObject "pull_request.user"
        let _ ← (Event.valueAt user ["login"]).requireLogin "pull_request.user.login"
        return ()) := by
  cases user with
  | object members =>
      cases checked : (Json.lookup members "login").requireNonBlank "pull_request.user.login" with
      | error fault =>
          simp [readAuthor, Json.requireObject, Json.field, Event.valueAt_object, Json.requireLogin,
            Json.requireSearchWord, checked]
      | ok login =>
          have loginIs := (Json.requireNonBlank_eq_ok_iff.mp checked).1
          rw [loginIs] at checked
          cases safe : (Json.text login).isSearchWord <;>
            simp [readAuthor, Json.requireObject, Json.field, Event.valueAt_object,
              Json.requireLogin, Json.requireSearchWord, Json.member_eq_ok loginIs, loginIs,
              checked, safe]
  | _ => rfl

theorem readPull_eq (pull : Json) : readPull pull = require (checkedPull pull) := by
  cases pull with
  | object members =>
      simp [readPull, checkedPull, Json.requireObject, readNumber_eq, readAuthor_eq, Json.field,
        Event.valueAt_object]
  | _ => rfl

theorem readIssue_eq (issue : Json) : readIssue issue = require (checkedIssue issue) := by
  cases issue with
  | object members =>
      simp [readIssue, checkedIssue, Json.requireObject, readNumber_eq, Event.valueAt_object]
  | _ => rfl

theorem readComment_eq (comment : Json) :
    readComment comment = require (checkedComment comment) := by
  cases comment with
  | object members =>
      cases userIs : Json.lookup members "user" with
      | object user =>
          cases bodyIs : Json.lookup members "body" <;>
            simp [readComment, checkedComment, Json.requireObject, Json.field, Event.valueAt_object,
              userIs, bodyIs, Json.member_eq_ok userIs]
      | _ =>
          simp [readComment, checkedComment, Json.requireObject, Json.field, Event.valueAt_object,
            userIs]
  | _ => rfl

/-- Every access of a reading is guarded: it finds what the checks alone come to. -/
theorem read_eq (hasClient : Bool) (event : Option Event) (settings : Settings) :
    read hasClient event settings = require (ofEvent hasClient event settings) := by
  cases hasClient with
  | false => rfl
  | true =>
      cases event with
      | none => rfl
      | some event =>
          rcases event with ⟨name, coordinates, payload⟩
          cases coordinates with
          | object members =>
              cases payload with
              | object payload =>
                  simp [read, ofEvent, Json.requireObject, readRepository_eq, readPull_eq,
                    readIssue_eq, readComment_eq, Json.field, Event.valueAt_object]
              | _ => rfl
          | _ => rfl

/-- An event is accepted exactly if there is a client and the event describes a context, which is
then the one made of it; and all else comes to a fault of the event, also where every access could
fail. -/
theorem ofEvent_exact (hasClient : Bool) (event : Option Event) (settings : Settings) :
    (∀ context, ofEvent hasClient event settings = .ok context ↔
      hasClient = true ∧
        ∃ delivered, event = some delivered ∧ Describes settings delivered context) ∧
    (∀ context, read hasClient event settings = .ok context ↔
      ofEvent hasClient event settings = .ok context) ∧
    ∀ failure, read hasClient event settings = .error failure ↔
      ∃ fault, ofEvent hasClient event settings = .error fault ∧ failure = .event fault := by
  rw [read_eq]
  refine ⟨?_, fun context => Except.mapError_eq_ok_iff, ?_⟩
  · intro context
    cases hasClient with
    | false => simp [ofEvent]
    | true =>
        cases event with
        | none => simp [ofEvent]
        | some delivered => simp [ofEvent_eq_ok_iff_describes]
  · intro failure
    cases ofEvent hasClient event settings with
    | ok context => simp
    | error fault => simp [eq_comm]

end Context

end Steward
