import Mathlib.Data.List.Basic
import Mathlib.Data.List.Induction
import Steward.Workspace

/-! Files that grow. What is appended to a file stands at its end when it is read again: the way to
the file does not change, since only files are written and no directory becomes one. -/

namespace Steward.Files

variable {files : Files} {place other directory : Place} {content : List UInt8}

/-! ## Places -/

theorem lookup_put_self (files : Files) (place : Place) (content : List UInt8) :
    (files.put place content).lookup place = some content := by
  induction files with
  | nil => simp [put]
  | cons file rest induction =>
      rcases file with ⟨known, old⟩
      by_cases same : known = place
      · simp [put, same]
      · have different : (place == known) = false := by simpa using Ne.symm same
        rw [put, if_neg same, List.lookup_cons, different, induction]

theorem lookup_put_of_ne (different : other ≠ place) :
    (files.put place content).lookup other = files.lookup other := by
  have unequal : (other == place) = false := by simpa using different
  induction files with
  | nil => rw [put, List.lookup_cons, unequal]
  | cons file rest induction =>
      rcases file with ⟨known, old⟩
      by_cases same : known = place
      · rw [put, if_pos same, List.lookup_cons, List.lookup_cons, same, unequal]
      · rw [put, if_neg same, List.lookup_cons, List.lookup_cons, induction]

theorem mem_places_put (known : other ∈ files.map Prod.fst) :
    other ∈ (files.put place content).map Prod.fst := by
  induction files with
  | nil => cases known
  | cons file rest induction =>
      rcases file with ⟨first, old⟩
      by_cases same : first = place
      · simpa [put, same] using known
      · rw [put, if_neg same]
        rw [List.map_cons, List.mem_cons] at known ⊢
        exact known.imp_right induction

/-! ## Directories -/

def Leads (files : Files) (place : Place) : Prop :=
  ∃ other ∈ standingPlaces ++ files.map Prod.fst, place.isPrefixOf other = true

theorem atPlace_eq_directory_iff :
    files.atPlace place = .directory directory ↔
      directory = place ∧ files.lookup place = none ∧ place ≠ nullDevice ∧ files.Leads place := by
  unfold atPlace Leads
  rw [← List.any_eq_true]
  cases files.lookup place with
  | some old => simp
  | none =>
      by_cases device : place = nullDevice
      · simp [device]
      · by_cases leads : (standingPlaces ++ files.map Prod.fst).any place.isPrefixOf = true
        · simp [device, leads, eq_comm]
        · simp [device, leads]

theorem atPlace_eq_file_iff :
    files.atPlace place = .file other content ↔
      other = place ∧ files.lookup place = some content := by
  unfold atPlace
  cases known : files.lookup place with
  | some old => simp [eq_comm]
  | none =>
      simp only [reduceCtorEq, and_false, iff_false]
      split
      · nofun
      · split <;> nofun

theorem Leads.put (leads : files.Leads other) : (files.put place content).Leads other := by
  rcases leads with ⟨below, known, isPrefix⟩
  refine ⟨below, ?_, isPrefix⟩
  rw [List.mem_append] at known ⊢
  exact known.imp_right mem_places_put

/-- What leads somewhere lies in a place that leads there too. -/
theorem Leads.dropLast (leads : files.Leads place) : files.Leads place.dropLast := by
  rcases leads with ⟨below, known, isPrefix⟩
  refine ⟨below, known, ?_⟩
  rw [List.isPrefixOf_iff_prefix] at isPrefix ⊢
  exact (List.dropLast_prefix place).trans isPrefix

theorem Leads.atPlace_ne_nothing (leads : files.Leads place) : files.atPlace place ≠ .nothing := by
  rw [Leads, ← List.any_eq_true] at leads
  unfold atPlace
  cases files.lookup place with
  | some old => simp
  | none => simp [leads]; split <;> simp

/-- A file that is written where there is no directory leaves all directories as they are. -/
theorem atPlace_put_of_directory (free : ∀ directory, files.atPlace place ≠ .directory directory)
    (found : files.atPlace other = .directory directory) :
    (files.put place content).atPlace other = .directory directory := by
  have different : other ≠ place := by
    rintro rfl
    exact free directory found
  rw [atPlace_eq_directory_iff] at found ⊢
  rcases found with ⟨same, unknown, nondevice, leads⟩
  exact ⟨same, by rw [lookup_put_of_ne different, unknown], nondevice, leads.put⟩

/-! ## Ways -/

/-- Where a step from a directory goes does not depend on the files. -/
theorem step_directory (start : Place) (name : String) :
    (∀ files : Files, files.step (.directory start) name = .directory start) ∨
      (∀ files : Files, files.step (.directory start) name = .tooLong) ∨
      (∀ files : Files, files.step (.directory start) name = files.atPlace start.dropLast) ∨
      ∀ files : Files, files.step (.directory start) name = files.atPlace (start ++ [name]) := by
  by_cases stays : name = "."
  · exact .inl fun files => by simp [step, stays]
  by_cases up : name = ".."
  · exact .inr (.inr (.inl fun files => by simp [step, up]))
  by_cases long : Path.greatestName < name.utf8ByteSize
  · exact .inr (.inl fun files => by simp [step, stays, up, long])
  · exact .inr (.inr (.inr fun files => by simp [step, stays, up, long]))

theorem step_eq_directory {found : Found} {name : String}
    (ends : files.step found name = .directory directory) : ∃ start, found = .directory start := by
  cases found with
  | directory start => exact ⟨start, rfl⟩
  | _ => cases ends

theorem walk_append (start : Place) (front : List String) (name : String) :
    files.walk start (front ++ [name]) = files.step (files.walk start front) name := by
  rw [walk, List.foldl_append]
  rfl

theorem atPlace_of_walk {start : Place} {names : List String}
    (ends : files.walk start names = .directory directory) :
    files.atPlace directory = .directory directory := by
  have atOwn {place : Place} (found : files.atPlace place = .directory directory) :
      files.atPlace directory = .directory directory := by
    rwa [← (atPlace_eq_directory_iff.mp found).1] at found
  induction names using List.reverseRecOn with
  | nil => exact atOwn ends
  | append_singleton front name induction =>
      rw [walk_append] at ends
      rcases step_eq_directory ends with ⟨before, found⟩
      rw [found] at ends
      rcases step_directory before name with stays | long | up | down
      · cases (stays files).symm.trans ends
        exact induction found
      · cases (long files).symm.trans ends
      · exact atOwn ((up files).symm.trans ends)
      · exact atOwn ((down files).symm.trans ends)

theorem walk_put {start : Place} {names : List String}
    (free : ∀ directory, files.atPlace place ≠ .directory directory)
    (ends : files.walk start names = .directory directory) :
    (files.put place content).walk start names = .directory directory := by
  induction names using List.reverseRecOn generalizing directory with
  | nil => exact atPlace_put_of_directory free ends
  | append_singleton front name induction =>
      rw [walk_append] at ends ⊢
      rcases step_eq_directory ends with ⟨before, found⟩
      rw [found] at ends
      rw [induction found]
      rcases step_directory before name with stays | long | up | down
      · rw [stays] at ends ⊢
        exact ends
      · cases (long files).symm.trans ends
      · rw [up] at ends ⊢
        exact atPlace_put_of_directory free ends
      · rw [down] at ends ⊢
        exact atPlace_put_of_directory free ends

/-! ## Appending -/

structure Opens (files : Files) (path : String) (directory : Place) (front : List String)
    (name : String) : Prop where
  short : Path.isTooLong path = false
  nonempty : path ≠ ""
  plain : Path.endsAsDirectory path = false
  split : Path.steps path = front ++ [name]
  found : files.walk (Path.start path) front = .directory directory

section

variable {path name : String} {front : List String}

theorem Opens.append_eq (opens : files.Opens path directory front name) (content : List UInt8) :
    files.append path content = files.appendIn directory name path content := by
  simp [append, opens.short, opens.nonempty, opens.plain, opens.split, opens.found]

theorem Opens.find_eq (opens : files.Opens path directory front name) :
    files.find path = files.step (.directory directory) name := by
  simp [find, opens.short, opens.nonempty, opens.split, opens.found, walk_append]

theorem Opens.put (opens : files.Opens path directory front name)
    (free : ∀ directory, files.atPlace place ≠ .directory directory) :
    (files.put place content).Opens path directory front name :=
  { opens with found := walk_put free opens.found }

theorem opens_of_append {after : Files} (appended : files.append path content = .ok after) :
    ∃ directory front name, files.Opens path directory front name := by
  unfold Files.append at appended
  by_cases long : Path.isTooLong path = true
  · rw [if_pos long] at appended
    cases appended
  by_cases empty : path = ""
  · rw [if_neg long, if_pos empty] at appended
    cases appended
  rw [if_neg long, if_neg empty] at appended
  split at appended
  · rename_i directory name found last
    by_cases ends : Path.endsAsDirectory path = true
    · rw [if_pos ends] at appended
      cases appended
    · exact ⟨directory, _, name, by simpa using long, empty, by simpa using ends,
        (List.dropLast_append_getLast? name last).symm, found⟩
  all_goals cases appended

theorem goes_of_file {old : List UInt8}
    (found : files.step (.directory directory) name = .file place old) (others : Files) :
    others.step (.directory directory) name = others.atPlace place := by
  rcases step_directory directory name with stays | long | up | down
  · cases (stays files).symm.trans found
  · cases (long files).symm.trans found
  · rw [up, (atPlace_eq_file_iff.mp ((up files).symm.trans found)).1]
  · rw [down, (atPlace_eq_file_iff.mp ((down files).symm.trans found)).1]

/-- Only a step down can lead to where nothing is. -/
theorem goes_of_nothing (there : files.atPlace directory = .directory directory)
    (found : files.step (.directory directory) name = .nothing) (others : Files) :
    others.step (.directory directory) name = others.atPlace (directory ++ [name]) := by
  rcases step_directory directory name with stays | long | up | down
  · cases (stays files).symm.trans found
  · cases (long files).symm.trans found
  · have leads := (atPlace_eq_directory_iff.mp there).2.2.2
    exact absurd ((up files).symm.trans found) leads.dropLast.atPlace_ne_nothing
  · exact down others

theorem Opens.find_put (opens : files.Opens path directory front name)
    (goes : ∀ others : Files, others.step (.directory directory) name = others.atPlace place)
    (free : ∀ directory, files.atPlace place ≠ .directory directory) :
    (files.put place content).find path = .file place content := by
  rw [(opens.put free).find_eq, goes, atPlace_eq_file_iff]
  exact ⟨rfl, lookup_put_self files place content⟩

/-- What was put where a path goes is found there. -/
theorem Opens.file?_put (opens : files.Opens path directory front name)
    (goes : ∀ others : Files, others.step (.directory directory) name = others.atPlace place)
    (free : ∀ directory, files.atPlace place ≠ .directory directory) :
    (files.put place content).file? path = some content := by
  rw [file?, opens.find_put goes free]
  simp [opens.plain]

/-- A path leads to a file that can be written to, or to where one can be made. The null device is
none: it keeps nothing. -/
structure IsWritable (files : Files) (path : String) : Prop where
  appends : ∃ content after, files.append path content = .ok after
  keeps : files.find path ≠ .nullDevice

/-- A path leads to the file that was put where it goes, so that more can be written to it. -/
theorem Opens.isWritable_put (opens : files.Opens path directory front name)
    (goes : ∀ others : Files, others.step (.directory directory) name = others.atPlace place)
    (free : ∀ directory, files.atPlace place ≠ .directory directory) :
    (files.put place content).IsWritable path := by
  have found : (files.put place content).find path = .file place content :=
    opens.find_put goes free
  constructor
  · rw [(opens.put free).find_eq] at found
    refine ⟨[], (files.put place content).put place (content ++ []), ?_⟩
    rw [(opens.put free).append_eq, appendIn, found]
  · rw [found]
    nofun

/-- A writable file grows by what is appended to it, and stays writable. -/
theorem IsWritable.append (writable : files.IsWritable path) (content : List UInt8) :
    ∃ after, files.append path content = .ok after ∧ after.IsWritable path ∧
      after.file? path = some ((files.file? path).getD [] ++ content) := by
  rcases writable with ⟨⟨other, after, appended⟩, keeps⟩
  rcases opens_of_append appended with ⟨directory, front, name, opens⟩
  rw [opens.find_eq] at keeps
  rw [opens.append_eq, appendIn] at appended
  rw [opens.append_eq, appendIn, file?, opens.find_eq]
  cases found : files.step (.directory directory) name with
  | file place old =>
      have goes := goes_of_file found
      have free (directory : Place) : files.atPlace place ≠ .directory directory := by
        rw [← goes files, found]
        nofun
      refine ⟨_, rfl, opens.isWritable_put goes free, ?_⟩
      rw [opens.file?_put goes free]
      simp [opens.plain]
  | nothing =>
      have goes := goes_of_nothing (atPlace_of_walk opens.found) found
      have free (other : Place) : files.atPlace (directory ++ [name]) ≠ .directory other := by
        rw [← goes files, found]
        nofun
      refine ⟨_, rfl, opens.isWritable_put goes free, ?_⟩
      rw [opens.file?_put goes free]
      rfl
  | nullDevice => exact absurd found keeps
  | directory | belowFile | tooLong =>
      rw [found] at appended
      cases appended

end

end Steward.Files
