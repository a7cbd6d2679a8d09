import Mathlib.Data.List.Basic
import Steward.Proofs.Output
import Steward.Proofs.Workspace

/-! Results read back. A later step takes for each key what stands in the last line for it, so that
earlier lines do not matter as long as they are ended. -/

namespace Steward.Output

open Text

def feed : UInt8 := 10

def equals : UInt8 := 61

def valueIn (key : String) (line : List UInt8) : Option (List UInt8) :=
  let front := Utf8.encode key ++ [equals]
  if front.isPrefixOf line then some (line.drop front.length) else none

/-- What a file tells for a key: the value in its last line for it. -/
def told (key : String) (content : List UInt8) : Option String :=
  ((content.splitOn feed).filterMap (valueIn key)).getLast?.bind fun value =>
    (Utf8.decode value).toOption

/-- No line is left open at the end of a file. -/
def IsEnded (content : List UInt8) : Prop := content = [] ∨ content.getLast? = some feed

theorem IsEnded.splitOn {content : List UInt8} (ended : IsEnded content) (more : List UInt8) :
    ∃ lines, (content ++ more).splitOn feed = lines ++ more.splitOn feed := by
  rcases ended with rfl | last
  · exact ⟨[], rfl⟩
  · refine ⟨content.dropLast.splitOn feed, ?_⟩
    rw [← List.splitOn_append_cons_self, ← List.singleton_append, ← List.append_assoc,
      List.dropLast_append_getLast? feed last]

/-- What is appended is told whatever was told before. -/
theorem told_append {content more : List UInt8} {key value : String} (ended : IsEnded content)
    (found : told key more = some value) : told key (content ++ more) = some value := by
  rcases ended.splitOn more with ⟨lines, split⟩
  rcases Option.bind_eq_some_iff.mp found with ⟨bytes, last, decoded⟩
  rw [told, split, List.filterMap_append, List.getLast?_append, last]
  exact decoded

/-! ## Lines -/

def entry (value : Wording × Json) : List UInt8 :=
  Utf8.encode value.1.shown ++ equals :: Utf8.encode (valueText value.2).shown

theorem encode_line (value : Wording × Json) :
    Utf8.encode (line value).shown = entry value ++ [feed] := by
  have equalsIs : String.utf8EncodeChar '=' = [equals] := by decide
  have feedIs : String.utf8EncodeChar '\n' = [feed] := by decide
  simp [line, entry, Utf8.encode, equalsIs, feedIs]

theorem shown_lines_cons (value : Wording × Json) (rest : Values) :
    (lines (value :: rest)).shown = (line value).shown ++ (lines rest).shown := by
  cases rest <;> simp [lines, Wording.joined]

theorem encode_lines (values : Values) :
    Utf8.encode (lines values).shown = values.flatMap fun value => entry value ++ [feed] := by
  induction values with
  | nil => rfl
  | cons value rest induction =>
      rw [List.flatMap_cons, ← encode_line, ← induction, shown_lines_cons]
      simp [Utf8.encode]

theorem splitOn_lines {values : Values} (unbroken : ∀ value ∈ values, feed ∉ entry value) :
    (Utf8.encode (lines values).shown).splitOn feed = values.map entry ++ [[]] := by
  rw [encode_lines]
  induction values with
  | nil => rfl
  | cons value rest induction =>
      rcases List.forall_mem_cons.mp unbroken with ⟨first, others⟩
      rw [List.flatMap_cons, List.append_assoc, List.singleton_append,
        List.splitOn_append_cons_self, List.splitOn_eq_singleton first, induction others]
      rfl

/-! ## Files -/

/-- Records go to the end of the file that is named, and leave it writable. -/
theorem recorded_content {environment : Environment} {path : String} {files : Files}
    {values : Values} (named : environment.nonEmpty? "GITHUB_OUTPUT" = some path)
    (writable : files.IsWritable path) (some_ : values ≠ []) :
    (recorded environment values files).IsWritable path ∧
      (recorded environment values files).file? path =
        some ((files.file? path).getD [] ++ Utf8.encode (lines values).shown) := by
  rcases writable.append (Utf8.encode (lines values).shown) with
    ⟨after, appended, extended, content⟩
  have grown : recorded environment values files = after := by
    simp [recorded, named, some_, appended, Except.toOption]
  rw [grown]
  exact ⟨extended, content⟩

/-- A writable file tells what was last recorded in it. -/
theorem told_recorded {environment : Environment} {path key value : String} {files : Files}
    {values : Values} (named : environment.nonEmpty? "GITHUB_OUTPUT" = some path)
    (writable : files.IsWritable path) (ended : IsEnded ((files.file? path).getD []))
    (some_ : values ≠ []) (found : told key (Utf8.encode (lines values).shown) = some value) :
    ((recorded environment values files).file? path).bind (told key) = some value := by
  rw [(recorded_content named writable some_).2]
  exact told_append ended found

end Steward.Output
