import Steward.Json.Reader
import Steward.Text.Utf8
import Steward.Workspace
import Steward.Yaml.Fault

/-! Why a bot gives up. -/

namespace Steward

inductive EventFault where
  | missing (field : String)
  | unsafeCharacters (field : String)
  | bodyNotText
  | unsupported (event : Wording)
deriving DecidableEq, Repr

def EventFault.reason : EventFault → Wording
  | .missing field => s!"missing or invalid {field}"
  | .unsafeCharacters field => s!"{field} contains invalid characters"
  | .bodyNotText => "comment.body must be a string"
  | .unsupported event => "unsupported event type \"" ++ event ++ "\""

def EventFault.message (fault : EventFault) : Wording :=
  "Bot context invalid: " ++ fault.reason

/-- Causes of failure. `rejected` is an answer of the service that reports an error, and `refused`
means that no answer came; `lacks` to `noMember` are values that cannot be used as the bots use
them. -/
inductive Failure where
  | event (fault : EventFault)
  | rejected (status : Int) (reason : Wording)
  | refused (reason : String)
  | unreadable (fault : Json.ReadFault)
  | lacks (kind : Json.Kind) (ability : String)
  | notIterable (kind : Json.Kind)
  | notSliceable (kind : Json.Kind)
  | notText (kind : Json.Kind)
  | notByName (kind : Json.Kind)
  | notEncodable
  | unencodable (fault : Wording.Fault)
  | notOrdered (kind : Json.Kind)
  | noMember (name : String)
  | noPrerequisite
  | file (fault : FileFault)
  | encoding (fault : Text.Utf8.Fault)
  | settings (fault : Yaml.ValueFault)
  | exit (code : Nat)
deriving DecidableEq, Repr

def encodingMessage (fault : Text.Utf8.Fault) : String :=
  if fault.first = fault.last then
    let byte := String.ofList (Text.hexDigits 2 fault.byte.toNat)
    s!"'utf-8' codec can't decode byte 0x{byte} in position {fault.first}: " ++
      fault.reason.message
  else
    s!"'utf-8' codec can't decode bytes in position {fault.first}-{fault.last}: " ++
      fault.reason.message

def surrogateMessage (fault : Wording.Fault) : String :=
  if fault.first = fault.last then
    let digits := String.ofList (Text.hexDigits 4 fault.surrogate.unit)
    s!"'utf-8' codec can't encode character '\\u{digits}' in position {fault.first}: " ++
      "surrogates not allowed"
  else
    s!"'utf-8' codec can't encode characters in position {fault.first}-{fault.last}: " ++
      "surrogates not allowed"

namespace Failure

def message : Failure → Wording
  | .event fault => fault.message
  | .rejected _ reason => reason
  | .refused reason => reason
  | .unreadable fault => fault.message
  | .lacks kind ability => s!"'{kind.name}' object has no attribute '{ability}'"
  | .notIterable kind => s!"'{kind.name}' object is not iterable"
  | .notSliceable kind =>
      if kind = .object then "unhashable type: 'slice'"
      else s!"'{kind.name}' object is not subscriptable"
  | .notText kind => s!"expected string or bytes-like object, got '{kind.name}'"
  | .notByName .text => "string indices must be integers, not 'str'"
  | .notByName .list => "list indices must be integers or slices, not str"
  | .notByName kind => s!"'{kind.name}' object is not subscriptable"
  | .notEncodable => "quote_from_bytes() expected bytes"
  | .unencodable fault => surrogateMessage fault
  | .notOrdered kind => s!"'>' not supported between instances of '{kind.name}' and 'int'"
  | .noMember name => Text.quoted name
  | .noPrerequisite => "'NoneType' object has no attribute 'label'"
  | .file fault => fault.message
  | .encoding fault => encodingMessage fault
  | .settings fault => fault.message
  | .exit code => toString code

def status? : Failure → Option Int
  | .rejected status _ => some status
  | _ => none

end Failure

/-! ## Access to values -/

namespace Json

def field (name : String) : Json → Except Failure Json
  | .object members => .ok (lookup members name)
  | value => .error (.lacks value.kind "get")

def member (name : String) : Json → Except Failure Json
  | .object members =>
      match members.lookup (name : Wording) with
      | some value => .ok value
      | none => .error (.noMember name)
  | value => .error (.notByName value.kind)

/-- What a walk over a value meets: items, single characters or names. -/
def elements : Json → Except Failure (List Json)
  | .list items => .ok items
  | .text value => .ok (value.points.map fun point => .text (.ofPoints [point]))
  | .object members => .ok (members.map fun member => .text member.1)
  | value => .error (.notIterable value.kind)

def requireText (ability : String) : Json → Except Failure Wording
  | .text value => .ok value
  | value => .error (.lacks value.kind ability)

def requireEncodable : Json → Except Failure String
  | .text value => value.encodable.mapError .unencodable
  | _ => .error .notEncodable

def isPositive : Json → Except Failure Bool
  | .integer value => .ok (0 < value)
  | .bool value => .ok value
  | .real value => .ok value.isPositive
  | value => .error (.notOrdered value.kind)

end Json

end Steward
