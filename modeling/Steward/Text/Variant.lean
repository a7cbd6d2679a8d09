/-! Letters that count as one when case does not matter. -/

namespace Steward.Text

/-- The ASCII letter that a character stands for when case does not matter. Besides the capitals
these are the long s, the Kelvin sign, and the i without and the I with a dot. -/
def plainLetter (character : Char) : Char :=
  if 'A' ≤ character && character ≤ 'Z' then Char.ofNat (character.toNat + 32)
  else if character = '\u017f' then 's'
  else if character = '\u212a' then 'k'
  else if character = '\u0131' || character = '\u0130' then 'i'
  else character

def isVariant (left right : Char) : Bool := plainLetter left == plainLetter right

example : isVariant '\u017f' 'S' = true := rfl

def areVariants : List Char → List Char → Bool
  | [], [] => true
  | left :: lefts, right :: rights => isVariant left right && areVariants lefts rights
  | _, _ => false

/-- What follows `word` at the start of a text, in any case; `none` where the text does not start
with it. -/
def afterWord : List Char → List Char → Option (List Char)
  | [], rest => some rest
  | _ :: _, [] => none
  | letter :: letters, character :: rest =>
      if isVariant letter character then afterWord letters rest else none

example : afterWord ['o', 'n'] ['O', 'n', '!'] = some ['!'] := rfl

end Steward.Text
