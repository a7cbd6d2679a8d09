import Steward.Text.Lowercase
import Steward.Text.Units

/-! Wordings: texts of any code points. What is read from escapes may hold surrogates that are no
half of a character; a text without them is a wording as it is. -/

namespace Steward

/-- The characters up to the first surrogate, then each surrogate with the characters after it. -/
structure Wording where
  text : String
  rest : List (Text.Surrogate × String)
deriving DecidableEq, Repr

instance : Coe String Wording where
  coe text := ⟨text, []⟩

namespace Wording

/-! ## Code points -/

def characters (text : String) : List Text.CodePoint := text.toList.map .character

def parts (rest : List (Text.Surrogate × String)) : List Text.CodePoint :=
  rest.flatMap fun part => .surrogate part.1 :: characters part.2

def points (wording : Wording) : List Text.CodePoint :=
  characters wording.text ++ parts wording.rest

def cut : List Text.CodePoint → List Char × List (Text.Surrogate × String)
  | [] => ([], [])
  | .character character :: rest => (character :: (cut rest).1, (cut rest).2)
  | .surrogate surrogate :: rest => ([], (surrogate, String.ofList (cut rest).1) :: (cut rest).2)

def ofPoints (points : List Text.CodePoint) : Wording :=
  ⟨String.ofList (cut points).1, (cut points).2⟩

def ofUnits (units : List Nat) : Wording := ofPoints (Text.ofUnits units)

theorem cut_characters (text : String) (points : List Text.CodePoint) :
    cut (characters text ++ points) = (text.toList ++ (cut points).1, (cut points).2) := by
  unfold characters
  induction text.toList with
  | nil => rfl
  | cons character rest induction => simp [cut, induction]

theorem cut_parts (rest : List (Text.Surrogate × String)) : cut (parts rest) = ([], rest) := by
  unfold parts
  induction rest with
  | nil => rfl
  | cons part rest induction => simp [cut, cut_characters, induction]

@[simp] theorem ofPoints_points (wording : Wording) : ofPoints wording.points = wording := by
  simp [ofPoints, points, cut_characters, cut_parts]

@[simp] theorem points_ofPoints (points : List Text.CodePoint) :
    (ofPoints points).points = points := by
  induction points with
  | nil => rfl
  | cons point rest induction =>
      cases point <;> simpa [ofPoints, Wording.points, characters, parts, cut] using induction

theorem points_inj {first second : Wording} : first.points = second.points ↔ first = second := by
  constructor
  · intro same
    rw [← ofPoints_points first, same, ofPoints_points]
  · exact congrArg points

@[simp] theorem points_coe (text : String) : (text : Wording).points = characters text :=
  List.append_nil _

theorem characters_append (first second : String) :
    characters (first ++ second) = characters first ++ characters second := by
  simp [characters]

@[simp] theorem mem_characters {character : Char} {text : String} :
    .character character ∈ characters text ↔ character ∈ text.toList := by
  simp [characters]

/-! ## Parts -/

def appendFrom (more : Wording) : String → List (Text.Surrogate × String) → Wording
  | text, [] => ⟨text ++ more.text, more.rest⟩
  | text, (surrogate, after) :: rest =>
      let joined := appendFrom more after rest
      ⟨text, (surrogate, joined.text) :: joined.rest⟩

instance : Append Wording where
  append first second := appendFrom second first.text first.rest

theorem points_appendFrom (more : Wording) (text : String) (rest : List (Text.Surrogate × String)) :
    (appendFrom more text rest).points = (Wording.mk text rest).points ++ more.points := by
  induction rest generalizing text with
  | nil => simp [appendFrom, points, parts, characters_append]
  | cons part rest induction =>
      have joined := induction part.2
      simp only [points, parts, List.append_assoc] at joined
      simp [appendFrom, points, parts, joined]

@[simp] theorem points_append (first second : Wording) :
    (first ++ second).points = first.points ++ second.points :=
  points_appendFrom second first.text first.rest

def take (count : Nat) (wording : Wording) : Wording := ofPoints (wording.points.take count)

/-- A surrogate is no letter, and so stands between words. -/
def lower (wording : Wording) : Wording :=
  ⟨Text.lower wording.text, wording.rest.map fun part => (part.1, Text.lower part.2)⟩

/-! ## Lines -/

def joined (separator : String) : List Wording → Wording
  | [] => ""
  | [wording] => wording
  | wording :: rest => wording ++ separator ++ joined separator rest

theorem points_joined (separator : String) (wordings : List Wording) :
    (joined separator wordings).points =
      (characters separator).intercalate (wordings.map points) := by
  induction wordings with
  | nil => rfl
  | cons wording rest induction =>
      cases rest with
      | nil => simp [joined]
      | cons second rest => simp [joined, induction, List.intercalate_cons_cons]

def ofLines (lines : List Wording) : Wording := joined "\n" lines

def framed (before lines after : List Wording) : Wording := ofLines (before ++ lines ++ after)

def firstLine (wording : Wording) : Wording :=
  ofPoints (wording.points.takeWhile (· ≠ .character '\n'))

/-! ## Characters only -/

def shownFrom : String → List (Text.Surrogate × String) → String
  | text, [] => text
  | text, (_, after) :: rest => text ++ "\ufffd" ++ shownFrom after rest

def shown (wording : Wording) : String := shownFrom wording.text wording.rest

@[simp] theorem shown_coe (text : String) : (text : Wording).shown = text := rfl

def shownPoint : Text.CodePoint → Char
  | .character character => character
  | .surrogate _ => '\ufffd'

theorem toList_shown (wording : Wording) :
    wording.shown.toList = wording.points.map shownPoint := by
  rcases wording with ⟨text, rest⟩
  have plain (text : String) : (characters text).map shownPoint = text.toList := by
    simp [characters, shownPoint, Function.comp_def]
  induction rest generalizing text with
  | nil => simp [shown, shownFrom, points, parts, plain]
  | cons part rest induction =>
      have later := induction part.2
      simp only [shown, points, parts, List.map_append, plain] at later
      simp [shown, shownFrom, points, parts, plain, later, shownPoint]

@[simp] theorem shown_append (first second : Wording) :
    (first ++ second).shown = first.shown ++ second.shown := by
  rw [← String.toList_inj, String.toList_append]
  simp only [toList_shown, points_append, List.map_append]

theorem mem_shown_of_mem_points {character : Char} {wording : Wording}
    (among : .character character ∈ wording.points) : character ∈ wording.shown.toList := by
  rw [toList_shown]
  exact List.mem_map.mpr ⟨_, among, rfl⟩

theorem eq_coe_of_not_mem {wording : Wording} (absent : '\ufffd' ∉ wording.shown.toList) :
    wording = (wording.shown : Wording) := by
  rcases wording with ⟨text, rest⟩
  cases rest with
  | nil => rfl
  | cons part rest => exact absurd (by simp [shown, shownFrom]) absent

/-- What keeps a text from being encoded: the first surrogate, with the positions of it and of the
last one that follows without a character between. -/
structure Fault where
  surrogate : Text.Surrogate
  first : Nat
  last : Nat
deriving DecidableEq, Repr

def following : String → List (Text.Surrogate × String) → Nat
  | _, [] => 0
  | text, (_, after) :: rest => if text = "" then following after rest + 1 else 0

def encodable (wording : Wording) : Except Fault String :=
  match wording.rest with
  | [] => .ok wording.text
  | (surrogate, after) :: rest =>
      let first := wording.text.length
      .error ⟨surrogate, first, first + following after rest⟩

@[simp] theorem encodable_coe (text : String) : (text : Wording).encodable = .ok text := rfl

end Wording

end Steward
