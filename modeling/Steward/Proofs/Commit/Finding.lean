import Steward.Proofs.Commit.Basic
import Steward.Proofs.Wording

/-! Findings on commits as the service lists them. Each commit that fails a check is described, in
the order of the list, and a check can only fail to come to an end on what tells of a signature. -/

namespace Steward.Commit

/-! ## Listed commits -/

/-- A commit as the service lists it: it has a message, and an identifier that is one line. -/
structure IsListed (commit : Json) : Prop where
  spoken : ∃ message, Event.valueAt commit ["commit", "message"] = .text message
  identified : ∃ identifier, Event.valueAt commit ["sha"] = .text identifier ∧
    identifier.IsUnbroken

def HasReadableSignature (commit : Json) : Prop :=
  let verification := Event.valueAt commit ["commit", "verification"]
  verification.isFalsy = true ∨ ∃ members, verification = .object members

instance : DecidablePred IsSignedOff := fun commit =>
  decidable_of_iff ((isSignedOff commit).toOption = some true)
    (Except.toOption_eq_some_iff.trans isSignedOff_eq_true_iff)

instance : DecidablePred HasVerifiedSignature := fun commit =>
  decidable_of_iff ((isVerified commit).toOption = some true)
    (Except.toOption_eq_some_iff.trans isVerified_eq_true_iff)

def finding (commit : Json) : Finding where
  identifier := .text ((Event.textAt commit ["sha"]).take 7)
  message := headline (Event.textAt commit ["commit", "message"])

/-- The line on a commit: the first seven characters of its identifier and the first line of its
message, or a remark where that is empty. -/
def entry (commit : Json) : Wording :=
  let identifier : Wording := .ofPoints ((Event.textAt commit ["sha"]).points.take 7)
  let first := (Event.textAt commit ["commit", "message"]).lines.head?.getD ""
  let headline : Wording := if first = "" then "(no message)" else first
  "- `" ++ identifier ++ "` " ++ headline

variable {commit : Json} {commits : List Json}

theorem markdown_finding (commit : Json) : (finding commit).markdown = entry commit := by
  rw [entry, Wording.head?_lines]
  rfl

/-! ## Checks on listed commits -/

theorem IsListed.message_eq (listed : IsListed commit) :
    message commit = .ok (.text (Event.textAt commit ["commit", "message"])) := by
  rcases listed.spoken with ⟨content, spoken⟩
  have present : Json.text content ≠ .null := nofun
  rcases (Json.walk_eq_iff present).mpr spoken with ⟨inner, there, found⟩
  rw [Event.textAt_eq spoken, message, there, Except.ok_bind,
    (Json.field_orEmpty_eq_ok_iff present).mpr found, Except.ok_bind, Json.orElse_text]
  rfl

theorem IsListed.describe_eq (listed : IsListed commit) :
    describe commit = .ok (finding commit) := by
  rcases listed.identified with ⟨identifier, found, -⟩
  have present : Json.text identifier ≠ .null := nofun
  have shortened : shortIdentifier (.text identifier) = .ok (finding commit).identifier := by
    rw [finding, Event.textAt_eq found]
    rfl
  rw [describe, (Json.field_orEmpty_eq_ok_iff present).mpr found, Except.ok_bind, Json.orElse_text,
    shortened, Except.ok_bind, listed.message_eq]
  rfl

theorem IsListed.isSignedOff_eq (listed : IsListed commit) :
    ∃ passed, isSignedOff commit = .ok passed := by
  rw [isSignedOff, listed.message_eq, Except.ok_bind, Signoff.has]
  split
  · exact ⟨_, rfl⟩
  · exact ⟨_, rfl⟩

theorem IsListed.objects (listed : IsListed commit) :
    ∃ members content, commit = .object members ∧
      Json.lookup members "commit" = .object content := by
  rcases listed.spoken with ⟨message, spoken⟩
  cases commit with
  | object members =>
      cases inner : Json.lookup members "commit" with
      | object content => exact ⟨members, content, rfl, inner⟩
      | _ => simp [Event.valueAt, inner] at spoken
  | _ => simp [Event.valueAt] at spoken

theorem IsListed.isVerified_eq_iff (listed : IsListed commit) :
    (∃ passed, isVerified commit = .ok passed) ↔ HasReadableSignature commit := by
  rcases listed.objects with ⟨members, content, rfl, inner⟩
  have verification : Event.valueAt (.object members) ["commit", "verification"] =
      Json.lookup content "verification" := by
    rw [Event.valueAt_cons, Event.valueAt_object, inner, Event.valueAt_object]
  rw [HasReadableSignature, verification, ← Json.exists_field_orEmpty_iff, isVerified,
    Json.orEmpty_object, Json.field, Except.ok_bind, inner, Json.orEmpty_object, Json.field,
    Except.ok_bind]
  constructor
  · intro checked
    rcases checked with ⟨passed, checked⟩
    rcases Except.bind_eq_ok_iff.mp checked with ⟨flag, found, -⟩
    exact ⟨flag, found⟩
  · intro readable
    rcases readable with ⟨flag, found⟩
    rw [found]
    exact ⟨_, rfl⟩

section

variable {passes : Json → Except Failure Bool} {findings : List Finding}

theorem checked_of_failing (known : failing passes commits = .ok findings) :
    ∀ commit ∈ commits, ∃ passed, passes commit = .ok passed := by
  induction commits generalizing findings with
  | nil => exact List.forall_mem_nil _
  | cons commit rest induction =>
      rw [failing, Except.bind_eq_ok_iff] at known
      rcases known with ⟨passed, check, known⟩
      refine List.forall_mem_cons.mpr ⟨⟨passed, check⟩, ?_⟩
      cases passed with
      | true => exact induction known
      | false =>
          simp only [Bool.false_eq_true, if_false, Except.bind_eq_ok_iff] at known
          rcases known with ⟨_, -, others, rest, -⟩
          exact induction rest

/-- Those that fail a check are described in order, if the check can be made on each commit. -/
theorem failing_of_checked {fine : Json → Prop} [DecidablePred fine]
    (fine_iff : ∀ commit, passes commit = .ok true ↔ fine commit)
    (listed : ∀ commit ∈ commits, IsListed commit)
    (checked : ∀ commit ∈ commits, ∃ passed, passes commit = .ok passed) :
    failing passes commits = .ok ((commits.filter fun commit => ¬fine commit).map finding) := by
  induction commits with
  | nil => rfl
  | cons commit rest induction =>
      rcases List.forall_mem_cons.mp listed with ⟨first, listed⟩
      rcases List.forall_mem_cons.mp checked with ⟨⟨passed, check⟩, checked⟩
      rw [failing, check, Except.ok_bind, induction listed checked]
      cases passed with
      | true =>
          have passes := (fine_iff commit).mp check
          simp [passes]
      | false =>
          have fails : ¬fine commit := by
            simp [← fine_iff, check]
          simp [first.describe_eq, fails]

end

def withoutSignoff (commits : List Json) : List Json :=
  commits.filter fun commit => ¬IsSignedOff commit

def withoutSignature (commits : List Json) : List Json :=
  commits.filter fun commit => ¬HasVerifiedSignature commit

theorem unsigned_eq (listed : ∀ commit ∈ commits, IsListed commit) :
    unsigned commits = .ok ((withoutSignoff commits).map finding) :=
  failing_of_checked (fun _ => isSignedOff_eq_true_iff) listed
    fun commit member => (listed commit member).isSignedOff_eq

theorem unverified_eq_iff (listed : ∀ commit ∈ commits, IsListed commit) {findings : List Finding} :
    unverified commits = .ok findings ↔
      (∀ commit ∈ commits, HasReadableSignature commit) ∧
        findings = (withoutSignature commits).map finding := by
  have readable (commit : Json) (member : commit ∈ commits) :=
    (listed commit member).isVerified_eq_iff
  constructor
  · intro known
    have checked := checked_of_failing known
    have described := failing_of_checked (fun _ => isVerified_eq_true_iff) listed checked
    refine ⟨fun commit member => (readable commit member).mp (checked commit member), ?_⟩
    exact Except.ok.inj (known.symm.trans described)
  · intro both
    rcases both with ⟨signatures, rfl⟩
    exact failing_of_checked (fun _ => isVerified_eq_true_iff) listed fun commit member =>
      (readable commit member).mpr (signatures commit member)

end Steward.Commit
