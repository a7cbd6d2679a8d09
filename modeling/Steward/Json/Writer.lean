import Steward.Decimal.Shortest
import Steward.Json.Value
import Steward.Text.Quoted

/-! Writing a JSON text: one line of ASCII, with a blank after each comma and colon. -/

namespace Steward.Json

def unitEscape (unit : Nat) : List Char := '\\' :: 'u' :: Text.hexDigits 4 unit

/-- One character between the quotes; beyond ASCII as one or two UTF-16 units. -/
def writtenCharacter (character : Char) : List Char :=
  match character with
  | '"' => ['\\', '"']
  | '\\' => ['\\', '\\']
  | '\n' => ['\\', 'n']
  | '\r' => ['\\', 'r']
  | '\t' => ['\\', 't']
  | '\x0c' => ['\\', 'f']
  | '\x08' => ['\\', 'b']
  | _ =>
      let code := character.toNat
      if 0x20 ≤ code && code ≤ 0x7e then [character]
      else if code < 0x10000 then unitEscape code
      else
        unitEscape (0xd800 + (code - 0x10000) / 0x400) ++
          unitEscape (0xdc00 + (code - 0x10000) % 0x400)

def writtenPoint : Text.CodePoint → List Char
  | .character character => writtenCharacter character
  | .surrogate surrogate => unitEscape surrogate.unit

def writtenText (wording : Wording) : String :=
  String.ofList ('"' :: wording.points.flatMap writtenPoint ++ ['"'])

mutual
def write : Json → String
  | .null => "null"
  | .bool true => "true"
  | .bool false => "false"
  | .integer value => toString value
  | .real value => value.text Binary64.jsonLayout
  | .text value => writtenText value
  | .list items => "[" ++ ", ".intercalate (writeItems items) ++ "]"
  | .object members => "\x7b" ++ ", ".intercalate (writeMembers members) ++ "\x7d"

def writeItems : List Json → List String
  | [] => []
  | item :: rest => write item :: writeItems rest

def writeMembers : List (Wording × Json) → List String
  | [] => []
  | (name, value) :: rest => (writtenText name ++ ": " ++ write value) :: writeMembers rest
end

end Steward.Json
