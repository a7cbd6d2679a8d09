import Steward.Proofs.Json
import Steward.Skill

/-! Labels of an issue are looked up among its label names, and so are its skill levels. -/

namespace Steward

theorem Label.has_eq_map (subject : Json) (name : Wording) :
    has subject name = (names subject).map (isAmong name) := by
  unfold has
  cases names subject <;> rfl

namespace SkillLevel

def ofNames (names : List Wording) : Option SkillLevel :=
  all.find? fun level => Label.isAmong level.label names

theorem firstOf_eq_map {issue : Json} {names : List Wording}
    (named : Label.names issue = .ok names) (levels : List SkillLevel) :
    firstOf issue levels = .ok (levels.find? fun level => Label.isAmong level.label names) := by
  induction levels with
  | nil => rfl
  | cons level rest induction =>
      rw [firstOf, Label.has_eq_map, named, List.find?_cons]
      cases found : Label.isAmong level.label names <;>
        simp [Except.map, found, induction]

theorem ofIssue_eq {issue : Json} {names : List Wording}
    (named : Label.names issue = .ok names) : ofIssue issue = .ok (ofNames names) :=
  firstOf_eq_map named all

end SkillLevel

end Steward
