import Mathlib.Data.Set.Insert
import Mathlib.Logic.Relation
import Steward.Proofs.Label

/-! Issues that are labelled alike. Of an issue's labels a lookup sees the set of their lowercase
names and nothing else: neither their order and number nor how they are written, and no entry
without a name. -/

namespace Steward

namespace Label

/-! ## Entries -/

/-- An entry of a label list has a name: it is the name, or an object that holds it. -/
inductive HasName : Json → Wording → Prop
  | plain (name : Wording) : HasName (.text name) name
  | member {members : List (Wording × Json)} {name : Wording}
      (nameIs : Json.lookup members "name" = .text name) : HasName (.object members) name

inductive IsLabelled : Json → List Json → Prop
  | nothing {issue : Json} (absent : issue.isFalsy = true) : IsLabelled issue []
  | unlabelled {members : List (Wording × Json)}
      (absent : (Json.lookup members "labels").isFalsy = true) : IsLabelled (.object members) []
  | labelled {members : List (Wording × Json)} {entries : List Json}
      (labelsAre : Json.lookup members "labels" = .list entries) :
      IsLabelled (.object members) entries

variable {issue entry : Json} {name : Wording} {entries first second : List Json}

theorem name?_eq_some_iff : name? entry = some name ↔ HasName entry name := by
  constructor
  · intro found
    cases entry with
    | text other =>
        cases found
        exact .plain name
    | object members => exact .member (Json.text?_eq_some_iff.mp found)
    | _ => cases found
  · intro named
    cases named with
    | plain => rfl
    | member nameIs => exact Json.text?_eq_some_iff.mpr nameIs

theorem IsLabelled.names_eq (labelled : IsLabelled issue entries) :
    names issue = .ok (entries.filterMap name?) := by
  cases labelled with
  | nothing absent =>
      rw [names, Json.orEmpty, Json.orElse_of_falsy absent]
      rfl
  | unlabelled absent =>
      rw [names, Json.orEmpty_object, Json.field, Except.ok_bind, Json.orElse_of_falsy absent]
      rfl
  | labelled labelsAre =>
      rw [names, Json.orEmpty_object, Json.field, Except.ok_bind, labelsAre, Json.orElse_list]
      rfl

/-! ## Lowercase names -/

def lowercase (entries : List Json) : Set Wording :=
  {word | ∃ entry ∈ entries, ∃ name, HasName entry name ∧ name.lower = word}

theorem mem_lowercase_iff {word : Wording} :
    word ∈ lowercase entries ↔ ∃ entry ∈ entries, ∃ name, HasName entry name ∧ name.lower = word :=
  Iff.rfl

theorem isAmong_filterMap_iff :
    isAmong name (entries.filterMap name?) = true ↔ name.lower ∈ lowercase entries := by
  simp only [isAmong, List.any_eq_true, List.mem_filterMap, name?_eq_some_iff, beq_iff_eq,
    mem_lowercase_iff]
  constructor
  · intro found
    rcases found with ⟨other, ⟨entry, member, named⟩, same⟩
    exact ⟨entry, member, other, named, same⟩
  · intro found
    rcases found with ⟨entry, member, other, named, same⟩
    exact ⟨other, ⟨entry, member, named⟩, same⟩

theorem IsLabelled.has_eq (labelled : IsLabelled issue entries) (name : Wording) :
    has issue name = .ok (isAmong name (entries.filterMap name?)) := by
  rw [has_eq_map, labelled.names_eq]
  rfl

/-! ## Likeness -/

/-- Label lists that differ in one thing which does not matter. An entry rewritten may change the
case of its name, and whether the name is by itself or in an object. -/
inductive Restates : List Json → List Json → Prop
  | permuted {first second : List Json} (permuted : first.Perm second) : Restates first second
  | repeated {entry : Json} {entries : List Json} (member : entry ∈ entries) :
      Restates entries (entry :: entries)
  | rewritten {entry other : Json} {name otherName : Wording} (named : HasName entry name)
      (otherNamed : HasName other otherName) (alike : name.lower = otherName.lower)
      (front back : List Json) : Restates (front ++ entry :: back) (front ++ other :: back)
  | cluttered {entry : Json} (nameless : ∀ name, ¬HasName entry name) (front back : List Json) :
      Restates (front ++ back) (front ++ entry :: back)

theorem HasName.unique {other : Wording} (named : HasName entry name)
    (again : HasName entry other) : name = other :=
  Option.some.inj ((name?_eq_some_iff.mpr named).symm.trans (name?_eq_some_iff.mpr again))

theorem lowercase_append (first second : List Json) :
    lowercase (first ++ second) = lowercase first ∪ lowercase second := by
  ext word
  simp [mem_lowercase_iff, or_and_right, exists_or]

theorem lowercase_cons : lowercase (entry :: entries) = lowercase [entry] ∪ lowercase entries :=
  lowercase_append [entry] entries

theorem HasName.lowercase_eq (named : HasName entry name) :
    lowercase [entry] = {name.lower} := by
  ext word
  simp only [mem_lowercase_iff, List.mem_singleton, exists_eq_left, Set.mem_singleton_iff]
  constructor
  · intro found
    rcases found with ⟨other, again, rfl⟩
    rw [named.unique again]
  · intro equal
    exact ⟨name, named, equal.symm⟩

theorem lowercase_eq_empty (nameless : ∀ name, ¬HasName entry name) : lowercase [entry] = ∅ := by
  ext word
  simp [mem_lowercase_iff, nameless]

theorem Restates.lowercase_eq (restates : Restates first second) :
    lowercase first = lowercase second := by
  cases restates with
  | permuted permuted =>
      ext word
      simp [mem_lowercase_iff, permuted.mem_iff]
  | @repeated entry entries member =>
      have among : lowercase [entry] ⊆ lowercase first := by
        intro word found
        rcases found with ⟨other, same, named⟩
        exact ⟨other, List.mem_singleton.mp same ▸ member, named⟩
      rw [lowercase_cons, Set.union_eq_self_of_subset_left among]
  | rewritten named otherNamed alike front back =>
      have same := named.lowercase_eq.trans (alike ▸ otherNamed.lowercase_eq.symm)
      rw [lowercase_append, lowercase_append, lowercase_cons, same, ← lowercase_cons]
  | cluttered nameless front back =>
      rw [lowercase_append, lowercase_append, lowercase_cons, lowercase_eq_empty nameless,
        Set.empty_union]

theorem lowercase_eq_of_restated (restated : Relation.EqvGen Restates first second) :
    lowercase first = lowercase second := by
  induction restated with
  | rel first second restates => exact restates.lowercase_eq
  | refl entries => rfl
  | symm first second _ induction => exact induction.symm
  | trans first middle second _ _ induction further => exact induction.trans further

end Label

namespace SkillLevel

open Label

variable {issue other : Json} {entries others : List Json} {level : SkillLevel}

structure IsEasiest (words : Set Wording) (level : SkillLevel) : Prop where
  among : (level.label : Wording).lower ∈ words
  first : ∃ easier harder, all = easier ++ level :: harder ∧
    ∀ other ∈ easier, (other.label : Wording).lower ∉ words

/-- No lookup tells two issues apart by their labels. -/
structure LookedUpAlike (first second : Json) : Prop where
  level : ofIssue first = ofIssue second
  has : ∀ name, Label.has first name = Label.has second name

theorem mem_all (level : SkillLevel) : level ∈ all := by
  cases level <;> decide

theorem ofIssue_eq_ok (labelled : IsLabelled issue entries) :
    ofIssue issue = .ok (ofNames (entries.filterMap name?)) :=
  ofIssue_eq labelled.names_eq

theorem ofNames_eq_some_iff :
    ofNames (entries.filterMap name?) = some level ↔ IsEasiest (lowercase entries) level := by
  rw [ofNames, List.find?_eq_some_iff_append]
  simp only [Bool.not_eq_true', ← Bool.not_eq_true, isAmong_filterMap_iff]
  constructor
  · intro found
    rcases found with ⟨among, easier, harder, split, absent⟩
    exact ⟨among, easier, harder, split, absent⟩
  · intro easiest
    rcases easiest.first with ⟨easier, harder, split, absent⟩
    exact ⟨easiest.among, easier, harder, split, absent⟩

theorem ofNames_eq_none_iff :
    ofNames (entries.filterMap name?) = none ↔
      ∀ level, (label level : Wording).lower ∉ lowercase entries := by
  simp only [ofNames, List.find?_eq_none, isAmong_filterMap_iff, mem_all, true_implies]

theorem lookedUpAlike_of_lowercase_eq (labelled : IsLabelled issue entries)
    (otherLabelled : IsLabelled other others) (same : lowercase entries = lowercase others) :
    LookedUpAlike issue other := by
  constructor
  · rw [ofIssue_eq_ok labelled, ofIssue_eq_ok otherLabelled]
    congr 1
    apply Option.ext
    intro level
    rw [ofNames_eq_some_iff, ofNames_eq_some_iff, same]
  · intro name
    rw [labelled.has_eq, otherLabelled.has_eq]
    congr 1
    rw [Bool.eq_iff_iff, isAmong_filterMap_iff, isAmong_filterMap_iff, same]

/-- The level of an issue is the easiest among the lowercase names of its labels. Issues with the
same lowercase names are looked up alike, and so are issues whose labels differ in their order,
number and writing, or in entries without a name. -/
theorem ofIssue_easiest_of_lowercase (labelled : IsLabelled issue entries) :
    (∃ found, ofIssue issue = .ok found) ∧
      (∀ level, ofIssue issue = .ok (some level) ↔ IsEasiest (lowercase entries) level) ∧
      (ofIssue issue = .ok none ↔
        ∀ level : SkillLevel, (level.label : Wording).lower ∉ lowercase entries) ∧
      (∀ name, ∃ found, has issue name = .ok found ∧
        (found = true ↔ name.lower ∈ lowercase entries)) ∧
      (∀ other others, IsLabelled other others → lowercase entries = lowercase others →
        LookedUpAlike issue other) ∧
      ∀ other others, IsLabelled other others → Relation.EqvGen Restates entries others →
        LookedUpAlike issue other := by
  refine ⟨⟨_, ofIssue_eq_ok labelled⟩, fun level => ?_, ?_, fun name => ?_, ?_, ?_⟩
  · rw [ofIssue_eq_ok labelled, Except.ok.injEq, ofNames_eq_some_iff]
  · rw [ofIssue_eq_ok labelled, Except.ok.injEq, ofNames_eq_none_iff]
  · exact ⟨_, labelled.has_eq name, isAmong_filterMap_iff⟩
  · intro other others otherLabelled same
    exact lookedUpAlike_of_lowercase_eq labelled otherLabelled same
  · intro other others otherLabelled restated
    exact lookedUpAlike_of_lowercase_eq labelled otherLabelled (lowercase_eq_of_restated restated)

def mixedEntries : List Json :=
  [.null, .text "Skill: Beginner", .object [("name", .text "SKILL: Good First Issue")], .integer 7]

theorem ofIssue_easiest_of_lowercase_mixed :
    IsLabelled (.object [("labels", .list mixedEntries)]) mixedEntries ∧
      ofIssue (.object [("labels", .list mixedEntries)]) = .ok (some .goodFirstIssue) ∧
      LookedUpAlike (.object [("labels", .list mixedEntries)])
        (.object [("labels", .list mixedEntries.reverse)]) := by
  have labelled : IsLabelled (.object [("labels", .list mixedEntries)]) mixedEntries :=
    .labelled rfl
  have among : (goodFirstIssue.label : Wording).lower ∈ lowercase mixedEntries :=
    ⟨.object [("name", .text "SKILL: Good First Issue")], by simp [mixedEntries],
      "SKILL: Good First Issue", .member rfl, by decide +kernel⟩
  rcases ofIssue_easiest_of_lowercase labelled with ⟨-, levels, -, -, -, restated⟩
  refine ⟨labelled, (levels .goodFirstIssue).mpr ⟨among, [], _, rfl, nofun⟩, ?_⟩
  exact restated _ _ (.labelled rfl) (.rel _ _ (.permuted (List.reverse_perm _).symm))

end SkillLevel

end Steward
