import Steward.Job
import Steward.Text.Blank

/-! Events as they are delivered, and the checks on their fields. -/

namespace Steward

/-! ## Checks -/

namespace Json

def isSearchCharacter (character : Char) : Bool :=
  character.isAlphanum || character = '.' || character = '_' || character = '/' || character = '-'

/-- A text that can stand as a word in a search. -/
def isSearchWord : Json → Bool
  | .text value => value.shown ≠ "" && value.shown.toList.all isSearchCharacter
  | _ => false

def isInteger : Json → Bool
  | .integer _ => true
  | _ => false

def isCount : Json → Bool
  | .integer value => 0 ≤ value
  | _ => false

def requireObject (value : Json) (label : String) : Except EventFault Unit :=
  match value with
  | .object _ => .ok ()
  | _ => .error (.missing label)

def requireNonBlank (value : Json) (label : String) : Except EventFault Wording :=
  match value with
  | .text content => if Text.isAllBlank content.shown then .error (.missing label) else .ok content
  | _ => .error (.missing label)

def requirePositive (value : Json) (label : String) : Except EventFault Int :=
  match value with
  | .integer number => if 1 ≤ number then .ok number else .error (.missing label)
  | _ => .error (.missing label)

/-- The text of a search word; `field` names it where only its characters are at fault. -/
def requireSearchWord (value : Json) (label field : String) : Except EventFault String := do
  let word ← value.requireNonBlank label
  if value.isSearchWord then return word.shown else .error (.unsafeCharacters field)

def requireLogin (value : Json) (label : String) : Except EventFault String :=
  value.requireSearchWord label label

end Json

/-! ## Events -/

structure Event where
  name : Json
  repository : Json
  payload : Json
deriving Repr

namespace Event

/-- The value at a path of member names, null where the path leads nowhere. -/
def valueAt (value : Json) : List String → Json
  | [] => value
  | name :: rest =>
      match value with
      | .object members => valueAt (Json.lookup members name) rest
      | _ => .null

def payloadValue (event : Option Event) (path : List String) : Json :=
  match event with
  | some event => valueAt event.payload path
  | none => .null

def mention (event : Option Event) (path : List String) : Wording :=
  (payloadValue event path).display

def issueNumber (event : Option Event) : Wording := mention event ["issue", "number"]

def pullNumber (event : Option Event) : Wording := mention event ["pull_request", "number"]

def headCommit (event : Option Event) : Wording := mention event ["pull_request", "head", "sha"]

def action (event : Option Event) : Wording := mention event ["action"]

def commenter (event : Option Event) : Wording := mention event ["comment", "user", "login"]

/-! ## Delivery -/

def splitAtSlash (text : String) : String × String :=
  let characters := text.toList
  let before := characters.takeWhile (· ≠ '/')
  (String.ofList before, String.ofList (characters.drop (before.length + 1)))

def load : Job Event := do
  let name ← Job.environment "GITHUB_EVENT_NAME"
  let repository ← Job.environment "GITHUB_REPOSITORY"
  match (← Job.station).environment.nonEmpty? "GITHUB_EVENT_PATH" with
  | none =>
      Job.notify .eventPathMissing
      Job.fail (.exit 1)
  | some path =>
      let text ← Job.readText path
      let payload ← (Json.read text).mapError Failure.unreadable
      let (owner, rest) := splitAtSlash (repository.getD "")
      return {
        name := .text (name.getD "")
        repository := .object [("owner", .text owner), ("repo", .text rest)]
        payload }

end Event

end Steward
