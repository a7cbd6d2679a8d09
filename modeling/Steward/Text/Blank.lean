import Steward.Text.Spans

/-! Blank characters, and texts without their blank ends. -/

namespace Steward.Text

/-- White space of Unicode together with the four information separators. -/
def blanks : Spans :=
  [(0x09, 0x0d), (0x1c, 0x20), (0x85, 0x85), (0xa0, 0xa0), (0x1680, 0x1680), (0x2000, 0x200a),
   (0x2028, 0x2029), (0x202f, 0x202f), (0x205f, 0x205f), (0x3000, 0x3000)]

def isBlank (character : Char) : Bool := blanks.contains character

example : isBlank '\u3000' = true := rfl

/-- A zero-width space has no width but is no blank. -/
example : isBlank '\u200b' = false := rfl

def isAllBlank (text : String) : Bool := text.toList.all isBlank

def dropBlanks (characters : List Char) : List Char := characters.dropWhile isBlank

def strip (characters : List Char) : List Char :=
  (dropBlanks (dropBlanks characters).reverse).reverse

example : strip [' ', 'a', ' ', 'b', '\n'] = ['a', ' ', 'b'] := rfl

end Steward.Text
