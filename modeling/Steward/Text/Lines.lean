/-! Texts as lists of lines. Only the line feed ends a line here. -/

namespace Steward.Text

/-- The pieces between separators: one more than there are separators. -/
def pieces {α : Type} [DecidableEq α] (separator : α) : List α → List (List α)
  | [] => [[]]
  | item :: rest =>
      if item = separator then [] :: pieces separator rest
      else
        match pieces separator rest with
        | [] => [[item]]
        | piece :: others => (item :: piece) :: others

example : pieces '/' ['a', '/', '/', 'b'] = [['a'], [], ['b']] := rfl

def lines (text : String) : List String := (pieces '\n' text.toList).map String.ofList

def dropFinalFeed (characters : List Char) : List Char :=
  if characters.getLast? == some '\n' then characters.dropLast else characters

example : dropFinalFeed ['a', '\n', '\n'] = ['a', '\n'] := rfl

def ofLines (lines : List String) : String := "\n".intercalate lines

/-- Every line ending, carriage return with or without line feed, becomes one line feed. -/
def unifyLineEnds : List Char → List Char
  | [] => []
  | '\r' :: '\n' :: rest => '\n' :: unifyLineEnds rest
  | '\r' :: rest => '\n' :: unifyLineEnds rest
  | character :: rest => character :: unifyLineEnds rest

example : unifyLineEnds ['a', '\r', '\n', 'b', '\r', 'c'] = ['a', '\n', 'b', '\n', 'c'] := rfl

end Steward.Text
