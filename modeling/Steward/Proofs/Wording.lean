import Steward.Proofs.Text.Lines
import Steward.Wording

/-! Wordings and their lines. A wording of lines starts with its first line, and is not blank if
this line is not; lines that hold no line feed are read back from their text. -/

namespace Steward.Wording

theorem append_assoc (first second third : Wording) :
    first ++ second ++ third = first ++ (second ++ third) := by
  simp [← points_inj]

/-! ## Lines -/

def IsUnbroken (line : Wording) : Prop := .character '\n' ∉ line.points

instance : DecidablePred IsUnbroken := fun line =>
  inferInstanceAs (Decidable (.character '\n' ∉ line.points))

theorem IsUnbroken.append {first second : Wording} (unbroken : first.IsUnbroken)
    (others : second.IsUnbroken) : (first ++ second).IsUnbroken := by
  simpa [IsUnbroken] using ⟨unbroken, others⟩

theorem IsUnbroken.take {line : Wording} (unbroken : line.IsUnbroken) (count : Nat) :
    (line.take count).IsUnbroken := by
  intro broken
  rw [Wording.take, points_ofPoints] at broken
  exact unbroken (List.mem_of_mem_take broken)

@[simp] theorem isUnbroken_coe {text : String} :
    (text : Wording).IsUnbroken ↔ '\n' ∉ text.toList := by
  simp [IsUnbroken]

def lines (wording : Wording) : List Wording :=
  (wording.points.splitOn (.character '\n')).map ofPoints

theorem points_ofLines (lines : List Wording) :
    (ofLines lines).points = [.character '\n'].intercalate (lines.map points) :=
  points_joined "\n" lines

/-- Lines are read back if none of them is broken. -/
theorem lines_ofLines {given : List Wording} (some_ : given ≠ [])
    (unbroken : ∀ line ∈ given, line.IsUnbroken) : (ofLines given).lines = given := by
  rw [lines, points_ofLines, List.splitOn_intercalate _ (List.forall_mem_map.mpr unbroken)
    (by simpa using some_), List.map_map]
  exact List.map_id'' ofPoints_points given

theorem ofLines_append {first second : List Wording} (some_ : first ≠ []) (others : second ≠ []) :
    ofLines (first ++ second) = ofLines first ++ "\n" ++ ofLines second := by
  induction first with
  | nil => exact absurd rfl some_
  | cons line rest induction =>
      cases rest with
      | nil =>
          cases second with
          | nil => exact absurd rfl others
          | cons => rfl
      | cons next rest =>
          have split (others : List Wording) :
              ofLines (line :: next :: others) = line ++ "\n" ++ ofLines (next :: others) := rfl
          rw [List.cons_append, List.cons_append, split, split, ← List.cons_append,
            induction (List.cons_ne_nil next rest)]
          simp only [append_assoc]

theorem ofLines_paragraphs {first second : List Wording} (some_ : first ≠ [])
    (others : second ≠ []) :
    ofLines (first ++ ("" : Wording) :: second) = ofLines first ++ "\n\n" ++ ofLines second := by
  have gap : ofLines (("" : Wording) :: second) = "\n" ++ ofLines second := by
    cases second with
    | nil => exact absurd rfl others
    | cons line rest => simp [← points_inj, ofLines, joined, characters]
  have feeds : ("\n\n" : Wording) = "\n" ++ "\n" := rfl
  rw [ofLines_append some_ (List.cons_ne_nil _ _), gap, feeds]
  simp only [append_assoc]

/-- Each line stands in the text. -/
theorem infix_ofLines {line : Wording} {lines : List Wording} (member : line ∈ lines) :
    line.points <:+: (ofLines lines).points := by
  induction lines with
  | nil => cases member
  | cons first rest induction =>
      cases rest with
      | nil =>
          rw [List.mem_singleton.mp member]
          exact List.infix_rfl
      | cons second others =>
          have split : ofLines (first :: second :: others) =
              first ++ "\n" ++ ofLines (second :: others) := rfl
          rw [split, points_append, points_append]
          rcases List.mem_cons.mp member with rfl | later
          · exact (List.prefix_append_of_prefix (List.prefix_append _ _)).isInfix
          · exact (induction later).trans (List.suffix_append _ _).isInfix

theorem ofLines_starts (first : Wording) (rest : List Wording) :
    ∃ tail, ofLines (first :: rest) = first ++ tail := by
  cases rest with
  | nil => exact ⟨"", by simp [← points_inj, points_ofLines, characters]⟩
  | cons second rest => exact ⟨"\n" ++ ofLines (second :: rest), append_assoc _ _ _⟩

theorem framed_starts (first : Wording) (rest lines after : List Wording) :
    ∃ tail, framed (first :: rest) lines after = first ++ tail :=
  ofLines_starts first (rest ++ lines ++ after)

theorem isAllBlank_ofLines {first : Wording} {rest : List Wording}
    (spoken : Text.isAllBlank first.shown = false) :
    Text.isAllBlank (ofLines (first :: rest)).shown = false := by
  rcases ofLines_starts first rest with ⟨tail, split⟩
  simp [split, spoken]

theorem isAllBlank_framed {first : Wording} {rest lines after : List Wording}
    (spoken : Text.isAllBlank first.shown = false) :
    Text.isAllBlank (framed (first :: rest) lines after).shown = false :=
  isAllBlank_ofLines spoken

theorem isUnbroken_firstLine (wording : Wording) : wording.firstLine.IsUnbroken := by
  rw [IsUnbroken, firstLine, points_ofPoints]
  intro member
  simpa using List.all_eq_true.mp List.all_takeWhile _ member

theorem takeWhile_append_of_unbroken {line : List Text.CodePoint}
    (unbroken : .character '\n' ∉ line) (rest : List Text.CodePoint) :
    (line ++ rest).takeWhile (· ≠ .character '\n') =
      line ++ rest.takeWhile (· ≠ .character '\n') := by
  apply List.takeWhile_append_of_pos
  intro point member
  simpa using fun equal : point = .character '\n' => unbroken (equal ▸ member)

theorem head?_lines (wording : Wording) : wording.lines.head? = some wording.firstLine := by
  rw [lines, firstLine, List.head?_map]
  by_cases broken : .character '\n' ∈ wording.points
  · rcases List.eq_append_cons_of_mem broken with ⟨first, rest, whole, unbroken⟩
    rw [whole, List.splitOn_append_cons_self, List.splitOn_eq_singleton unbroken,
      takeWhile_append_of_unbroken unbroken]
    simp
  · have whole := takeWhile_append_of_unbroken broken []
    rw [List.append_nil] at whole
    rw [List.splitOn_eq_singleton broken, whole]
    simp

/-! ## Blank ends -/

def strip (wording : Wording) : Wording :=
  let isBlank (point : Text.CodePoint) := Text.isBlank (shownPoint point)
  ofPoints ((wording.points.dropWhile isBlank).reverse.dropWhile isBlank).reverse

theorem toList_shown_strip (wording : Wording) :
    wording.strip.shown.toList = Text.strip wording.shown.toList := by
  simp only [toList_shown, strip, points_ofPoints, Text.strip, Text.dropBlanks, List.dropWhile_map,
    Function.comp_def, ← List.map_reverse]

/-! ## Surrogates -/

/-- A surrogate breaks a wording: the first there is, with those that follow it at once. -/
inductive IsBrokenBy : Wording → Fault → Prop
  | run {wording : Wording} {before : String} {first : Text.Surrogate}
      {others : List Text.Surrogate} {after : List Text.CodePoint}
      (whole : wording.points =
        characters before ++ .surrogate first :: (others.map .surrogate ++ after))
      (ends : ∀ surrogate, after.head? ≠ some (.surrogate surrogate)) :
      IsBrokenBy wording ⟨first, before.length, before.length + others.length⟩

theorem following_cut {after : List Text.CodePoint}
    (ends : ∀ surrogate, after.head? ≠ some (.surrogate surrogate)) (others : List Text.Surrogate) :
    following (String.ofList (cut (others.map .surrogate ++ after)).1)
      (cut (others.map .surrogate ++ after)).2 = others.length := by
  induction others with
  | nil =>
      cases after with
      | nil => rfl
      | cons point after =>
          cases point with
          | surrogate surrogate => exact absurd rfl (ends surrogate)
          | character character =>
              cases parts : (cut after).2 with
              | nil => simp [cut, parts, following]
              | cons => simp [cut, parts, following, ← String.toList_inj]
  | cons surrogate others induction => simpa [cut, following] using induction

theorem IsBrokenBy.encodable_eq {wording : Wording} {fault : Fault}
    (broken : wording.IsBrokenBy fault) : wording.encodable = .error fault := by
  rcases broken with @⟨before, first, others, after, whole, ends⟩
  rw [← ofPoints_points wording, whole, ofPoints, cut_characters]
  simp [cut, encodable, following_cut ends]

/-- Surrogates that stand at the front come to an end. -/
theorem exists_run (points : List Text.CodePoint) :
    ∃ (others : List Text.Surrogate) (after : List Text.CodePoint),
      points = others.map .surrogate ++ after ∧
        ∀ surrogate, after.head? ≠ some (.surrogate surrogate) := by
  induction points with
  | nil => exact ⟨[], [], rfl, nofun⟩
  | cons point rest induction =>
      cases point with
      | character character => exact ⟨[], .character character :: rest, rfl, by simp⟩
      | surrogate surrogate =>
          rcases induction with ⟨others, after, rfl, ends⟩
          exact ⟨surrogate :: others, after, rfl, ends⟩

/-- A wording is a text or broken. -/
theorem coe_or_isBrokenBy (wording : Wording) :
    (∃ text : String, wording = text) ∨ ∃ fault, wording.IsBrokenBy fault := by
  rcases wording with ⟨text, _ | ⟨⟨first, after⟩, rest⟩⟩
  · exact .inl ⟨text, rfl⟩
  · rcases exists_run (characters after ++ parts rest) with ⟨others, last, split, ends⟩
    have whole : (Wording.mk text ((first, after) :: rest)).points =
        characters text ++ .surrogate first :: (others.map .surrogate ++ last) := by
      rw [← split]
      simp [points, parts]
    exact .inr ⟨_, .run whole ends⟩

end Steward.Wording
