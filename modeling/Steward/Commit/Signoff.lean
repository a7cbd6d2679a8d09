import Steward.Failure
import Steward.Text.Blank
import Steward.Text.Variant

/-! Sign-offs in commit messages. At the start of a line stands `Signed-off-by:` in any case; then
come blanks, a name, blanks, and an address in angle brackets. The blanks may go over the ends of
lines; name and address may not.

The definitions below tell, from the last part of a sign-off to the first, whether a text starts
with that part and all after it. -/

namespace Steward.Signoff

def closes : List Char → Bool
  | [] => false
  | character :: rest => character == '>' || (character != '\n' && closes rest)

def address : List Char → Bool
  | [] => false
  | character :: rest => character != '\n' && closes rest

def blanksAddress : List Char → Bool
  | [] => false
  | character :: rest =>
      (character == '<' && address rest) || (Text.isBlank character && blanksAddress rest)

def restOfName : List Char → Bool
  | [] => false
  | character :: rest =>
      (Text.isBlank character && blanksAddress rest) || (character != '\n' && restOfName rest)

def name : List Char → Bool
  | [] => false
  | character :: rest => character != '\n' && restOfName rest

def blanksName : List Char → Bool
  | [] => false
  | character :: rest =>
      name (character :: rest) || (Text.isBlank character && blanksName rest)

def signer : List Char → Bool
  | [] => false
  | character :: rest => Text.isBlank character && blanksName rest

def key : List Char := "Signed-off-by:".toList

def starts (characters : List Char) : Bool :=
  match Text.afterWord key characters with
  | some rest => signer rest
  | none => false

def startsLaterLine : List Char → Bool
  | [] => false
  | character :: rest => (character == '\n' && starts rest) || startsLaterLine rest

def isIn (characters : List Char) : Bool := starts characters || startsLaterLine characters

/-- Whether a commit message has a sign-off. An absent message has none, and of other values only
texts are messages. -/
def has (message : Json) : Except Failure Bool :=
  if message.isFalsy then .ok false
  else
    match message with
    | .text text => .ok (isIn text.shown.toList)
    | other => .error (.notText other.kind)

end Steward.Signoff
