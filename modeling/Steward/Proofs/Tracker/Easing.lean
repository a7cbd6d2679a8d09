import Steward.Proofs.Tracker.Change

/-! What changes do to the numbers of issues that people hold. Only an assignment lets somebody hold
more than before, and that by one issue. -/

namespace Steward

namespace Site

variable {site : Site} {names more : Finset String} {name : String}

theorem Has.mono (has : site.Has names name) (included : names ⊆ more) : site.Has more name := by
  rcases has with ⟨other, member, equal⟩
  exact ⟨other, included member, equal⟩

theorem has_union_iff :
    site.Has (names ∪ more) name ↔ site.Has names name ∨ site.Has more name := by
  simp only [Has, Finset.mem_union, or_and_right, exists_or]

theorem has_congr {other : String} (equal : site.form name = site.form other) :
    site.Has names name ↔ site.Has names other := by
  simp only [Has, equal]

end Site

/-! ## Issues -/

namespace Issue

variable {site : Site} {issue : Issue} {login : String}

theorem not_isHeldBy_close : ¬issue.close.IsHeldBy site login :=
  fun held => Bool.false_ne_true held.stillOpen

theorem IsHeldBy.of_unassign {other : String} (held : (issue.unassign other).IsHeldBy site login) :
    issue.IsHeldBy site login :=
  ⟨held.stillOpen, held.free, held.assigned.mono (Finset.erase_subset _ _)⟩

theorem IsHeldBy.of_addLabels {names : List String}
    (held : (issue.addLabels names).IsHeldBy site login) : issue.IsHeldBy site login :=
  ⟨held.stillOpen, fun blocked => held.free (blocked.mono Finset.subset_union_left), held.assigned⟩

/-- An issue that is no longer ready is as blocked as before. -/
theorem IsHeldBy.of_removeLabel
    (held : (issue.removeLabel site Label.readyForDev).IsHeldBy site login) :
    issue.IsHeldBy site login := by
  refine ⟨held.stillOpen, fun blocked => held.free ?_, held.assigned⟩
  rcases blocked with ⟨other, member, equal⟩
  have kept : site.form other ≠ site.form Label.readyForDev := by
    rw [equal]
    exact site.apart.symm
  exact ⟨other, Finset.mem_filter.mpr ⟨member, kept⟩, equal⟩

theorem IsHeldBy.of_assign {other : String}
    (held : (issue.assign [other]).IsHeldBy site login) :
    issue.IsHeldBy site login ∨ site.form other = site.form login := by
  rcases Site.has_union_iff.mp held.assigned with assigned | ⟨known, member, equal⟩
  · exact .inl ⟨held.stillOpen, held.free, assigned⟩
  · have same : known = other := by simpa using member
    exact .inr (same ▸ equal)

end Issue

/-! ## Trackers -/

namespace Tracker

variable {site : Site}

@[simp] theorem issue_update_self {tracker : Tracker} {number : Nat} {change : Issue → Issue} :
    (tracker.update number change).issue number = change (tracker.issue number) := if_pos rfl

theorem issue_update_of_ne {tracker : Tracker} {number other : Nat} {change : Issue → Issue}
    (different : other ≠ number) : (tracker.update number change).issue other =
      tracker.issue other := if_neg different

structure Eases (site : Site) (before after : Tracker) : Prop where
  numbers : after.numbers = before.numbers
  held : ∀ number login, (after.issue number).IsHeldBy site login →
    (before.issue number).IsHeldBy site login
  assignees : ∀ number, (after.issue number).assignees ⊆ (before.issue number).assignees

theorem Eases.refl (tracker : Tracker) : tracker.Eases site tracker :=
  ⟨rfl, fun _ _ held => held, fun _ => Finset.Subset.refl _⟩

theorem Eases.trans {before middle after : Tracker} (first : before.Eases site middle)
    (second : middle.Eases site after) : before.Eases site after :=
  ⟨second.numbers.trans first.numbers,
    fun number login held => first.held number login (second.held number login held),
    fun number => (second.assignees number).trans (first.assignees number)⟩

theorem Eases.held_le {before after : Tracker} (eases : before.Eases site after) (login : String) :
    after.held site login ≤ before.held site login := by
  unfold Tracker.held
  rw [eases.numbers]
  exact Finset.card_le_card (Finset.monotone_filter_right _ fun number _ => eases.held number login)

theorem eases_update {tracker : Tracker} {number : Nat} {change : Issue → Issue}
    (held : ∀ issue login, (change issue).IsHeldBy site login → issue.IsHeldBy site login)
    (assignees : ∀ issue, (change issue).assignees ⊆ issue.assignees) :
    tracker.Eases site (tracker.update number change) := by
  refine ⟨rfl, fun other login => ?_, fun other => ?_⟩
  · by_cases same : other = number
    · rw [same, issue_update_self]
      exact held _ login
    · rw [issue_update_of_ne same]
      exact id
  · by_cases same : other = number
    · rw [same, issue_update_self]
      exact assignees _
    · rw [issue_update_of_ne same]

theorem held_congr {tracker : Tracker} {login other : String}
    (equal : site.form login = site.form other) :
    tracker.held site login = tracker.held site other := by
  unfold held
  congr 1
  refine Finset.filter_congr fun number _ => ⟨fun held => ?_, fun held => ?_⟩
  · exact ⟨held.stillOpen, held.free, (Site.has_congr equal).mp held.assigned⟩
  · exact ⟨held.stillOpen, held.free, (Site.has_congr equal).mpr held.assigned⟩

/-- An assignment lets one person hold one issue more. -/
theorem held_assign_le {tracker : Tracker} {number : Nat} {login other : String} :
    ((Change.assign number [other]).apply site tracker).held site login ≤
      tracker.held site login + if site.form other = site.form login then 1 else 0 := by
  rw [Change.apply]
  split
  · rename_i same
    refine (Finset.card_le_card fun index member => ?_).trans (Finset.card_insert_le number _)
    rcases Finset.mem_filter.mp member with ⟨known, held⟩
    by_cases here : index = number
    · exact here ▸ Finset.mem_insert_self _ _
    · rw [issue_update_of_ne here] at held
      exact Finset.mem_insert_of_mem (Finset.mem_filter.mpr ⟨known, held⟩)
  · rename_i different
    refine Finset.card_le_card fun index member => ?_
    rcases Finset.mem_filter.mp member with ⟨known, held⟩
    refine Finset.mem_filter.mpr ⟨known, ?_⟩
    by_cases here : index = number
    · rw [here, issue_update_self] at held
      exact here ▸ held.of_assign.resolve_right different
    · rwa [issue_update_of_ne here] at held

end Tracker

end Steward
