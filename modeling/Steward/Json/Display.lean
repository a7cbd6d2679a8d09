import Steward.Decimal.Shortest
import Steward.Json.Value
import Steward.Text.Quoted

/-! Values as they stand in messages. A text stands there as it is; within a list or an object, and
wherever it is to be told from its surroundings, it is quoted. -/

namespace Steward.Json

mutual
def literal : Json → String
  | .null => "None"
  | .bool true => "True"
  | .bool false => "False"
  | .integer value => toString value
  | .real value => value.text Binary64.messageLayout
  | .text value => Text.quoted value
  | .list items => "[" ++ ", ".intercalate (literalItems items) ++ "]"
  | .object members => "\x7b" ++ ", ".intercalate (literalMembers members) ++ "\x7d"

def literalItems : List Json → List String
  | [] => []
  | item :: rest => literal item :: literalItems rest

def literalMembers : List (Wording × Json) → List String
  | [] => []
  | (name, value) :: rest =>
      (Text.quoted name ++ ": " ++ literal value) :: literalMembers rest
end

def display : Json → Wording
  | .text value => value
  | value => value.literal

def displayOption (value : Option String) : String := value.getD "None"

end Steward.Json
