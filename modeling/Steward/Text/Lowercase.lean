import Steward.Text.Casing

/-! Lowercase texts. Letters are replaced one by one, but for two: a dotted capital `İ` keeps its
dot as a combining mark, and a capital sigma that ends a word becomes `ς`. -/

namespace Steward.Text

def isCaseIgnorable (character : Char) : Bool := caseIgnorable.contains character

def isCased (character : Char) : Bool := cased.contains character

/-- Whether the nearest character that is not passed over is cased. -/
def meetsCased (characters : List Char) : Bool :=
  match characters.dropWhile isCaseIgnorable with
  | [] => false
  | character :: _ => isCased character

def lowerLetter (character : Char) : Char :=
  if character.toNat < 0x80 then
    if 'A' ≤ character && character ≤ 'Z' then Char.ofNat (character.toNat + 32) else character
  else
    match caseRuns.find? (·.contains character.toNat) with
    | some run => run.lower character.toNat
    | none => character

example : lowerLetter 'Q' = 'q' := rfl

/-- The Kelvin sign is a capital `k`. -/
example : lowerLetter '\u212a' = 'k' := rfl

/-- Lowercases `rest`, where `before` holds the characters in front of it, nearest first. -/
def lowerFrom (before : List Char) : List Char → List Char
  | [] => []
  | character :: rest =>
      let lowered :=
        if character = '\u0130' then ['i', '\u0307']
        else if character = '\u03a3' then
          if meetsCased before && !meetsCased rest then ['\u03c2'] else ['\u03c3']
        else [lowerLetter character]
      lowered ++ lowerFrom (character :: before) rest

def lower (text : String) : String := String.ofList (lowerFrom [] text.toList)

end Steward.Text
