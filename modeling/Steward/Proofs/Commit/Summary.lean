import Steward.Proofs.Commit.Report
import Steward.Proofs.Text.Number

/-! Counts in summaries of reports. A summary tells for each check how many commits fail it, and
nothing of a check that none fails. -/

namespace Steward.Commit

def Mentions (check : String) (count : Nat) (text : String) : Prop :=
  s!"**{check}:** {count} commit(s)".toList <:+: text.toList

def IsSummed (check : String) : Prop := check = "DCO" ∨ check = "GPG"

def mark (check : String) : List Char := "**".toList ++ check.toList ++ ":** ".toList

def tale (check : String) (count : Nat) : List Char :=
  mark check ++ (toString count).toList ++ " commit(s)".toList

def remark (check reason : String) (count : Nat) : List Char :=
  if count = 0 then [] else ' ' :: tale check count ++ reason.toList

theorem mentions_iff {check text : String} {count : Nat} :
    Mentions check count text ↔ tale check count <:+: text.toList := by
  simp [Mentions, tale, mark, toString]

theorem toList_failureSummary (total : String) (findings : Findings) :
    (failureSummary total findings).toList =
      "Checked ".toList ++ total.toList ++ " commit(s).".toList ++
        (remark "DCO" " missing `Signed-off-by`." findings.unsigned.length ++
          remark "GPG" " without verified GPG signature." findings.unverified.length) := by
  rcases findings with ⟨unsigned, unverified⟩
  cases unsigned <;> cases unverified <;> simp [failureSummary, remark, tale, mark, toString]

/-- A text that begins with the mark of a check stands where that mark stands, or behind. -/
theorem mark_infix_iff {check other : String} (summed : IsSummed check) (summedToo : IsSummed other)
    (text rest : List Char) :
    mark check ++ text <:+: mark other ++ rest ↔
      (check = other ∧ text <+: rest) ∨ mark check ++ text <:+: rest := by
  rcases summed with rfl | rfl <;> rcases summedToo with rfl | rfl <;>
    simp [mark, List.infix_cons_iff]

theorem count_prefix_iff {count other : Nat} {rest : List Char} :
    (toString count).toList ++ " commit(s)".toList <+:
        (toString other).toList ++ " commit(s)".toList ++ rest ↔ count = other := by
  constructor
  · intro begins
    rcases begins with ⟨more, begins⟩
    have ends : (toString (count : Int)).toList ++ ' ' :: ("commit(s)".toList ++ more) =
        (toString (other : Int)).toList ++ ' ' :: ("commit(s)".toList ++ rest) := by
      rw [Text.toList_ofNat, Text.toList_ofNat]
      simpa using begins
    exact Int.ofNat.inj (Text.eq_of_append_eq rfl (by decide) ends)
  · intro same
    rw [same]
    exact List.prefix_append _ _

theorem tale_infix_append {check : String} {count : Nat} {before after : List Char}
    (absent : '*' ∉ before) : tale check count <:+: before ++ after ↔ tale check count <:+: after :=
  Text.infix_append_iff absent

/-- A count stands where the remark on its check stands, or behind. -/
theorem tale_infix_remark {check other reason : String} {count failed : Nat} {after : List Char}
    (summed : IsSummed check) (summedToo : IsSummed other) (plain : '*' ∉ reason.toList) :
    tale check count <:+: remark other reason failed ++ after ↔
      (check = other ∧ count = failed ∧ 0 < count) ∨ tale check count <:+: after := by
  have split : tale check count =
      mark check ++ ((toString count).toList ++ " commit(s)".toList) := by
    rw [tale, List.append_assoc]
  by_cases none_ : failed = 0
  · rw [remark, if_pos none_, List.nil_append]
    refine (or_iff_right ?_).symm
    intro told
    omega
  · have whole : remark other reason failed ++ after = [' '] ++ (mark other ++
        ((toString failed).toList ++ " commit(s)".toList ++ (reason.toList ++ after))) := by
      simp [remark, none_, tale]
    have told : '*' ∉ (toString failed).toList ++ " commit(s)".toList ++ reason.toList := by
      have digits : '*' ∉ (toString failed).toList := Text.not_mem_toString failed rfl (by decide)
      simp only [List.mem_append, not_or]
      exact ⟨⟨digits, by decide⟩, plain⟩
    rw [whole, tale_infix_append (by decide), split, mark_infix_iff summed summedToo,
      count_prefix_iff, ← split, ← List.append_assoc, tale_infix_append told]
    refine or_congr_left (and_congr_right fun _ => ?_)
    omega

/-- A summary tells exactly how many commits fail each check, where there are some. -/
theorem mentions_failureSummary {total : String} {findings : Findings} (plain : '*' ∉ total.toList)
    (count : Nat) :
    (Mentions "DCO" count (failureSummary total findings) ↔
      count = findings.unsigned.length ∧ 0 < count) ∧
    (Mentions "GPG" count (failureSummary total findings) ↔
      count = findings.unverified.length ∧ 0 < count) := by
  have counted (check : String) (summed : IsSummed check) :
      Mentions check count (failureSummary total findings) ↔
        (check = "DCO" ∧ count = findings.unsigned.length ∧ 0 < count) ∨
          (check = "GPG" ∧ count = findings.unverified.length ∧ 0 < count) := by
    have front : '*' ∉ "Checked ".toList ++ total.toList ++ " commit(s).".toList := by
      simp [plain]
    rw [mentions_iff, toList_failureSummary, tale_infix_append front,
      tale_infix_remark summed (.inl rfl) (by decide), ← List.append_nil (remark "GPG" _ _),
      tale_infix_remark summed (.inr rfl) (by decide)]
    simp [tale, mark]
  refine ⟨(counted "DCO" (.inl rfl)).trans ?_, (counted "GPG" (.inr rfl)).trans ?_⟩ <;> simp

variable {findings : Findings} {settings : Settings} {total : String}

/-- Where no commit fails, no count is told. -/
theorem not_mentions_of_passed {check : String} {count : Nat} (plain : '*' ∉ total.toList)
    (passed : findings.areNone = true) :
    ¬Mentions check count (checkReport total findings settings).summary := by
  rw [mentions_iff, checkReport, if_pos passed]
  intro told
  have star : '*' ∈ tale check count := by simp [tale, mark]
  have starred := told.subset star
  simp [toString, plain] at starred

theorem mentions_summary (plain : '*' ∉ total.toList) (findings : Findings) (settings : Settings)
    (count : Nat) :
    (Mentions "DCO" count (checkReport total findings settings).summary ↔
      count = findings.unsigned.length ∧ 0 < count) ∧
    (Mentions "GPG" count (checkReport total findings settings).summary ↔
      count = findings.unverified.length ∧ 0 < count) := by
  cases passed : findings.areNone with
  | true =>
      rcases Findings.areNone_iff.mp passed with ⟨signed, verified⟩
      rw [signed, verified, List.length_nil]
      exact ⟨iff_of_false (not_mentions_of_passed plain passed) (by omega),
        iff_of_false (not_mentions_of_passed plain passed) (by omega)⟩
  | false =>
      rw [checkReport, if_neg (by simp [passed])]
      exact mentions_failureSummary plain count

end Steward.Commit
