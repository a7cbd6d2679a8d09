import Steward.Decimal.Binary64
import Steward.Wording

/-! JSON values. Integers and binary numbers are kept apart: a numeral with a point or an exponent
is never an integer, whatever its value. -/

namespace Steward

/-- A JSON value. The members of an object are in the order of their first appearance. -/
inductive Json where
  | null
  | bool (value : Bool)
  | integer (value : Int)
  | real (value : Binary64)
  | text (value : Wording)
  | list (items : List Json)
  | object (members : List (Wording × Json))
deriving Repr

namespace Json

/-! ## Kinds -/

inductive Kind where
  | null
  | bool
  | integer
  | real
  | text
  | list
  | object
deriving DecidableEq, Repr

def Kind.name : Kind → String
  | .null => "NoneType"
  | .bool => "bool"
  | .integer => "int"
  | .real => "float"
  | .text => "str"
  | .list => "list"
  | .object => "dict"

def kind : Json → Kind
  | .null => .null
  | .bool _ => .bool
  | .integer _ => .integer
  | .real _ => .real
  | .text _ => .text
  | .list _ => .list
  | .object _ => .object

/-! ## Absent values

A value that says nothing counts as absent: null, false, zero, and the empty text, list and
object. -/

def isFalsy : Json → Bool
  | .null => true
  | .bool value => !value
  | .integer value => value == 0
  | .real value => value.isZero
  | .text value => value == ("" : Wording)
  | .list items => items.isEmpty
  | .object members => members.isEmpty

def isTruthy (value : Json) : Bool := !value.isFalsy

def orElse (value replacement : Json) : Json :=
  if value.isFalsy then replacement else value

def orEmpty (value : Json) : Json := value.orElse (.object [])

/-! ## Members -/

def lookup (members : List (Wording × Json)) (name : String) : Json :=
  match members with
  | [] => .null
  | (other, value) :: rest => if other = name then value else lookup rest name

def insert {α : Type} [DecidableEq α] (name : α) (value : Json) : List (α × Json) → List (α × Json)
  | [] => [(name, value)]
  | (other, old) :: rest =>
      if other = name then (name, value) :: rest else (other, old) :: insert name value rest

/-- An object from members in which a name may be repeated: the last value counts. -/
def ofMembers (members : List (Wording × Json)) : Json :=
  .object (members.foldl (fun known member => insert member.1 member.2 known) [])

/-! ## Views -/

def text? : Json → Option Wording
  | .text value => some value
  | _ => none

def integer? : Json → Option Int
  | .integer value => some value
  | _ => none

def isTrue : Json → Bool
  | .bool true => true
  | _ => false

def isNull : Json → Bool
  | .null => true
  | _ => false

end Json

end Steward
