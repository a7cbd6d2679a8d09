import Steward.Text.Hex
import Steward.Text.Printable
import Steward.Wording

/-! Quoted texts: a text between quotation marks, with escapes for what would not be seen. -/

namespace Steward.Text

def quotedCharacter (mark character : Char) : List Char :=
  if character = mark || character = '\\' then ['\\', character]
  else if character = '\n' then ['\\', 'n']
  else if character = '\r' then ['\\', 'r']
  else if character = '\t' then ['\\', 't']
  else if isPrintable character then [character]
  else if character.toNat < 0x100 then '\\' :: 'x' :: hexDigits 2 character.toNat
  else if character.toNat < 0x10000 then '\\' :: 'u' :: hexDigits 4 character.toNat
  else '\\' :: 'U' :: hexDigits 8 character.toNat

def quotedPoint (mark : Char) : CodePoint → List Char
  | .character character => quotedCharacter mark character
  | .surrogate surrogate => '\\' :: 'u' :: hexDigits 4 surrogate.unit

/-- An apostrophe on each side, or double quotes around a text that holds apostrophes and no double
quotes. -/
def quotationMark (points : List CodePoint) : Char :=
  if points.contains (.character '\'') && !points.contains (.character '"') then '"' else '\''

def quoted (wording : Wording) : String :=
  let points := wording.points
  let mark := quotationMark points
  String.ofList (mark :: points.flatMap (quotedPoint mark) ++ [mark])

end Steward.Text
