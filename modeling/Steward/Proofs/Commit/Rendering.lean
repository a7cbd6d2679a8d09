import Steward.Proofs.Commit.Finding
import Steward.Proofs.Commit.Summary

/-! Reports on commits as they are rendered. Each commit that fails a check has one line of its own,
which is the same in all renderings, and no message can break it or add another. -/

namespace Steward.Commit

variable {commit : Json} {commits : List Json}

/-! ## Items -/

def isItem (line : Wording) : Bool := (Wording.characters "- ").isPrefixOf line.points

def items (text : Wording) : List Wording := text.lines.filter isItem

theorem isItem_entry (commit : Json) : isItem (entry commit) = true := by
  simp [isItem, entry, Wording.characters]

theorem IsListed.entry_unbroken (listed : IsListed commit) : (entry commit).IsUnbroken := by
  rcases listed.identified with ⟨identifier, found, unbroken⟩
  have told : (headline (Event.textAt commit ["commit", "message"])).IsUnbroken := by
    rw [headline]
    split
    · decide
    · exact Wording.isUnbroken_firstLine _
  rw [← markdown_finding, Finding.markdown, finding, Event.textAt_eq found]
  have marks : ("- `" : Wording).IsUnbroken ∧ ("` " : Wording).IsUnbroken := by decide
  exact ((marks.1.append (unbroken.take 7)).append marks.2).append told

theorem entries_unbroken (listed : ∀ commit ∈ commits, IsListed commit) :
    ∀ line ∈ commits.map entry, line.IsUnbroken := by
  intro line member
  rcases List.mem_map.mp member with ⟨commit, given, rfl⟩
  exact (listed commit given).entry_unbroken

theorem items_ofLines {given : List Wording} (some_ : given ≠ [])
    (unbroken : ∀ line ∈ given, line.IsUnbroken) :
    items (.ofLines given) = given.filter isItem := by
  rw [items, Wording.lines_ofLines some_ unbroken]

theorem filter_isItem_entries (commits : List Json) :
    (commits.map entry).filter isItem = commits.map entry := by
  apply List.filter_eq_self.mpr
  intro line member
  rcases List.mem_map.mp member with ⟨commit, -, rfl⟩
  exact isItem_entry commit

/-! ## Blocks -/

def sections (heading : String) (commits : List Json) : List Wording :=
  if commits = [] then [] else [.ofLines (heading :: commits.map entry)]

/-- What the reports on both checks have in common: their sections, with an empty line between. -/
def block (commits : List Json) : Wording :=
  .joined "\n\n"
    (sections unsignedHeading (withoutSignoff commits) ++
      sections unverifiedHeading (withoutSignature commits))

def findings (commits : List Json) : Findings where
  unsigned := (withoutSignoff commits).map finding
  unverified := (withoutSignature commits).map finding

variable {settings : Settings}

theorem map_markdown (commits : List Json) :
    (commits.map finding).map Finding.markdown = commits.map entry := by
  rw [List.map_map]
  exact List.map_congr_left fun commit _ => markdown_finding commit

theorem sectionLines_eq (heading : String) (commits : List Json) :
    sectionLines heading (commits.map finding) =
      if commits = [] then [] else (heading : Wording) :: commits.map entry := by
  rw [sectionLines, map_markdown]
  simp

theorem areNone_findings (commits : List Json) :
    (findings commits).areNone = true ↔
      withoutSignoff commits = [] ∧ withoutSignature commits = [] := by
  simp [Findings.areNone_iff, findings]

theorem ofLines_blockLines (commits : List Json) :
    Wording.ofLines (blockLines (findings commits)) = block commits := by
  simp only [blockLines, findings, sectionLines_eq, block, sections]
  by_cases first : withoutSignoff commits = []
  · by_cases second : withoutSignature commits = []
    · simp [first, second, Wording.ofLines, Wording.joined]
    · simp [first, second, Wording.joined]
  · by_cases second : withoutSignature commits = []
    · simp [first, second, Wording.joined]
    · simp [first, second, Wording.joined, ← Wording.ofLines_paragraphs]

/-- The items of a block are the lines on the commits that fail. -/
theorem filter_blockLines (commits : List Json) :
    (blockLines (findings commits)).filter isItem =
      (withoutSignoff commits ++ withoutSignature commits).map entry := by
  have headings : isItem unsignedHeading = false ∧ isItem unverifiedHeading = false ∧
      isItem "" = false := by decide
  rcases headings with ⟨unsigned, unverified, gap⟩
  simp only [blockLines, findings, sectionLines_eq]
  by_cases first : withoutSignoff commits = [] <;>
    by_cases second : withoutSignature commits = [] <;>
    simp [first, second, unsigned, unverified, gap, filter_isItem_entries]

theorem sectionLines_unbroken {heading : String} (plain : '\n' ∉ heading.toList)
    (listed : ∀ commit ∈ commits, IsListed commit) :
    ∀ line ∈ sectionLines heading (commits.map finding), line.IsUnbroken := by
  intro line member
  rw [sectionLines_eq] at member
  split at member
  · cases member
  · rcases List.mem_cons.mp member with rfl | member
    · simpa using plain
    · exact entries_unbroken listed line member

theorem mem_blockLines {findings : Findings} {line : Wording}
    (member : line ∈ blockLines findings) :
    line ∈ sectionLines unsignedHeading findings.unsigned ∨ line = "" ∨
      line ∈ sectionLines unverifiedHeading findings.unverified := by
  rw [blockLines] at member
  split at member
  · exact (List.mem_append.mp member).imp_right .inr
  · simpa [List.append_assoc] using member

theorem blockLines_unbroken (listed : ∀ commit ∈ commits, IsListed commit) :
    ∀ line ∈ blockLines (findings commits), line.IsUnbroken := by
  intro line member
  rcases mem_blockLines member with unsigned | rfl | unverified
  · exact sectionLines_unbroken (by decide)
      (fun commit failed => listed commit (List.mem_filter.mp failed).1) line unsigned
  · decide
  · exact sectionLines_unbroken (by decide)
      (fun commit failed => listed commit (List.mem_filter.mp failed).1) line unverified

/-! ## Reports -/

def reportFooter (settings : Settings) : Wording :=
  "\n\n" ++ "See the [Signing Guide](" ++ settings.signingGuide ++ ") for how to sign commits."

def signingHeader : Wording :=
  "## DCO & GPG check - action needed" ++ "\n\n" ++
    "Some commits on this PR are missing required sign-off or GPG verification." ++ "\n\n"

def signingFooter (settings : Settings) : Wording :=
  "\n\n" ++ "Please ensure every commit has a line `Signed-off-by: Your Name " ++
    "<your.email@example.com>` and is signed with GPG (`git commit -s -S`)." ++ "\n\n" ++
    "See the [Signing Guide](" ++ settings.signingGuide ++ ") for details."

theorem blockLines_ne_nil (failed : (findings commits).areNone = false) :
    blockLines (findings commits) ≠ [] := by
  intro empty
  have none_ := congrArg (List.filter isItem) empty
  rw [filter_blockLines, List.filter_nil, List.map_eq_nil_iff, List.append_eq_nil_iff,
    ← areNone_findings, failed] at none_
  cases none_

theorem checkReport_text {total : String} (failed : (findings commits).areNone = false) :
    (checkReport total (findings commits) settings).text =
      some (block commits ++ reportFooter settings) := by
  rw [checkReport, if_neg (by simp [failed]), Wording.framed, List.nil_append,
    Wording.ofLines_paragraphs (blockLines_ne_nil failed) (List.cons_ne_nil _ _),
    ofLines_blockLines, reportFooter, Wording.ofLines, Wording.joined]
  simp only [Wording.append_assoc]

theorem signingComment_eq (failed : (findings commits).areNone = false) :
    signingComment (findings commits) settings =
      some (signingHeader ++ block commits ++ signingFooter settings) := by
  have someLines := blockLines_ne_nil failed
  have paragraphs (first second : Wording) :
      Wording.ofLines [first, "", second] = first ++ "\n\n" ++ second :=
    Wording.ofLines_paragraphs (List.cons_ne_nil first []) (List.cons_ne_nil second [])
  have opening (heading remark : Wording) :
      Wording.ofLines ([heading, "", remark, ""] ++ blockLines (findings commits)) =
        heading ++ "\n\n" ++ remark ++ "\n\n" ++ block commits := by
    rw [← ofLines_blockLines, ← paragraphs heading remark]
    exact Wording.ofLines_paragraphs (List.cons_ne_nil heading ["", remark]) someLines
  rw [signingComment, if_neg (by simp [failed]), Wording.framed,
    Wording.ofLines_paragraphs (List.append_ne_nil_of_right_ne_nil _ someLines)
      (List.cons_ne_nil _ _),
    opening, paragraphs, signingHeader, signingFooter]
  simp only [Wording.append_assoc]

structure IsPlain (line : Wording) : Prop where
  noItem : isItem line = false
  unbroken : line.IsUnbroken

instance : DecidablePred IsPlain := fun line =>
  decidable_of_iff (isItem line = false ∧ line.IsUnbroken)
    ⟨fun both => ⟨both.1, both.2⟩, fun plain => ⟨plain.noItem, plain.unbroken⟩⟩

theorem isItem_append {first : Wording} (rest : Wording) (long : 2 ≤ first.points.length) :
    isItem (first ++ rest) = isItem first := by
  rw [isItem, isItem, Wording.points_append]
  match first.points, long with
  | _ :: _ :: _, _ => rfl

theorem IsPlain.append {first rest : Wording} (plain : IsPlain first)
    (long : 2 ≤ first.points.length) (unbroken : rest.IsUnbroken) : IsPlain (first ++ rest) where
  noItem := (isItem_append rest long).trans plain.noItem
  unbroken := plain.unbroken.append unbroken

/-- Plain lines around others leave their items as they are. -/
theorem items_framed (before listed : List Wording) {after : List Wording}
    (opening : ∀ line ∈ before, IsPlain line) (unbroken : ∀ line ∈ listed, line.IsUnbroken)
    (closing : ∀ line ∈ after, IsPlain line) (some_ : after ≠ []) :
    items (.framed before listed after) = listed.filter isItem := by
  have none_ {lines : List Wording} (plain : ∀ line ∈ lines, IsPlain line) :
      lines.filter isItem = [] :=
    List.filter_eq_nil_iff.mpr fun line member => by simp [(plain line member).noItem]
  rw [Wording.framed, items_ofLines (List.append_ne_nil_of_right_ne_nil _ some_),
    List.filter_append, List.filter_append, none_ opening, none_ closing, List.nil_append,
    List.append_nil]
  intro line member
  rcases List.mem_append.mp member with member | member
  · rcases List.mem_append.mp member with member | member
    · exact (opening line member).unbroken
    · exact unbroken line member
  · exact (closing line member).unbroken

section

variable (listed : ∀ commit ∈ commits, IsListed commit)
  (guide : settings.signingGuide.IsUnbroken)

include guide in
theorem isPlain_guided {before after : Wording} (plain : IsPlain before)
    (long : 2 ≤ before.points.length) (unbroken : after.IsUnbroken) :
    IsPlain (before ++ settings.signingGuide ++ after) := by
  rw [Wording.append_assoc]
  exact plain.append long (guide.append unbroken)

include listed guide

theorem items_checkReport {total : String} {text : Wording}
    (told : (checkReport total (findings commits) settings).text = some text) :
    items text = (withoutSignoff commits ++ withoutSignature commits).map entry := by
  rw [checkReport] at told
  split at told
  · cases told
  · cases told
    rw [← filter_blockLines]
    refine items_framed [] (blockLines (findings commits)) (List.forall_mem_nil _)
      (blockLines_unbroken listed) ?_ (List.cons_ne_nil _ _)
    refine List.forall_mem_cons.mpr ⟨by decide +kernel, List.forall_mem_singleton.mpr ?_⟩
    exact isPlain_guided guide (by decide +kernel) (by decide +kernel) (by decide +kernel)

theorem items_signingComment {comment : Wording}
    (told : signingComment (findings commits) settings = some comment) :
    items comment = (withoutSignoff commits ++ withoutSignature commits).map entry := by
  rw [signingComment] at told
  split at told
  · cases told
  · cases told
    rw [← filter_blockLines]
    refine items_framed _ (blockLines (findings commits)) (by decide +kernel)
      (blockLines_unbroken listed) ?_ (List.cons_ne_nil _ _)
    refine List.forall_mem_cons.mpr ⟨by decide +kernel, List.forall_mem_cons.mpr ⟨by decide +kernel,
      List.forall_mem_cons.mpr ⟨by decide +kernel, List.forall_mem_singleton.mpr ?_⟩⟩⟩
    exact isPlain_guided guide (by decide +kernel) (by decide +kernel) (by decide +kernel)

theorem items_signoffComment :
    items (signoffComment (findings commits).unsigned settings) =
      (withoutSignoff commits).map entry := by
  have failed (commit : Json) (member : commit ∈ withoutSignoff commits) : IsListed commit :=
    listed commit (List.mem_filter.mp member).1
  rw [signoffComment, findings, map_markdown]
  refine (items_framed _ _ (by decide +kernel) (entries_unbroken failed) ?_
    (List.cons_ne_nil _ _)).trans
    (filter_isItem_entries _)
  refine List.forall_mem_cons.mpr ⟨by decide +kernel, List.forall_mem_singleton.mpr ?_⟩
  exact isPlain_guided guide (by decide +kernel) (by decide +kernel) (by decide +kernel)

theorem items_signatureComment :
    items (signatureComment (findings commits).unverified settings) =
      (withoutSignature commits).map entry := by
  have failed (commit : Json) (member : commit ∈ withoutSignature commits) : IsListed commit :=
    listed commit (List.mem_filter.mp member).1
  rw [signatureComment, findings, map_markdown]
  refine (items_framed _ _ (by decide +kernel) (entries_unbroken failed) ?_
    (List.cons_ne_nil _ _)).trans
    (filter_isItem_entries _)
  refine List.forall_mem_cons.mpr ⟨by decide +kernel, List.forall_mem_singleton.mpr ?_⟩
  exact isPlain_guided guide (by decide +kernel) (by decide +kernel) (by decide +kernel)

end

/-! ## Agreement -/

/-- The renderings of a report on commits, of which `total` are told, agree: they list the commits
that fail and no other, each in its own line and in order, around the same block. -/
structure Agree (commits : List Json) (settings : Settings) (total : Int) (findings : Findings) :
    Prop where
  success_iff : (checkReport (toString total) findings settings).conclusion = .success ↔
    withoutSignoff commits = [] ∧ withoutSignature commits = []
  textless_iff : (checkReport (toString total) findings settings).text = none ↔
    withoutSignoff commits = [] ∧ withoutSignature commits = []
  silent_iff : signingComment findings settings = none ↔
    withoutSignoff commits = [] ∧ withoutSignature commits = []
  text {text : Wording} (told : (checkReport (toString total) findings settings).text = some text) :
    text = block commits ++ reportFooter settings ∧
      items text = (withoutSignoff commits ++ withoutSignature commits).map entry
  comment {comment : Wording} (told : signingComment findings settings = some comment) :
    comment = signingHeader ++ block commits ++ signingFooter settings ∧
      items comment = (withoutSignoff commits ++ withoutSignature commits).map entry
  signature : items (signatureComment findings.unverified settings) =
    (withoutSignature commits).map entry
  signoff_count (count : Nat) :
    Mentions "DCO" count (checkReport (toString total) findings settings).summary ↔
      count = (withoutSignoff commits).length ∧ 0 < count
  signature_count (count : Nat) :
    Mentions "GPG" count (checkReport (toString total) findings settings).summary ↔
      count = (withoutSignature commits).length ∧ 0 < count

theorem agree_findings (listed : ∀ commit ∈ commits, IsListed commit)
    (guide : settings.signingGuide.IsUnbroken) (total : Int) :
    Agree commits settings total (findings commits) where
  success_iff := conclusion_eq_success_iff.trans (areNone_findings commits)
  textless_iff := text_eq_none_iff.trans (areNone_findings commits)
  silent_iff := signingComment_eq_none_iff.trans (areNone_findings commits)
  text told := by
    have failed : (findings commits).areNone = false := by
      rw [← Bool.not_eq_true, ← text_eq_none_iff, told]
      exact nofun
    exact ⟨Option.some.inj (told.symm.trans (checkReport_text failed)),
      items_checkReport listed guide told⟩
  comment told := by
    have failed : (findings commits).areNone = false := by
      rw [← Bool.not_eq_true, ← signingComment_eq_none_iff, told]
      exact nofun
    exact ⟨Option.some.inj (told.symm.trans (signingComment_eq failed)),
      items_signingComment listed guide told⟩
  signature := items_signatureComment listed guide
  signoff_count count := by
    have shown : '*' ∉ (toString total).toList := Text.not_mem_toString total rfl (by decide)
    have counted := (mentions_summary shown (findings commits) settings count).1
    rwa [findings, List.length_map] at counted
  signature_count count := by
    have shown : '*' ∉ (toString total).toList := Text.not_mem_toString total rfl (by decide)
    have counted := (mentions_summary shown (findings commits) settings count).2
    rwa [findings, List.length_map] at counted

/-- Commits without a sign-off can always be told, and those without a verified signature exactly if
what tells of each signature can be looked into. All renderings agree on them. -/
theorem renderings_agree (listed : ∀ commit ∈ commits, IsListed commit)
    (guide : settings.signingGuide.IsUnbroken) (total : Int) :
    ∃ unsignedOnes, unsigned commits = .ok unsignedOnes ∧
      items (signoffComment unsignedOnes settings) = (withoutSignoff commits).map entry ∧
      ((∃ unverifiedOnes, unverified commits = .ok unverifiedOnes) ↔
        ∀ commit ∈ commits, HasReadableSignature commit) ∧
      ∀ unverifiedOnes, unverified commits = .ok unverifiedOnes →
        Agree commits settings total ⟨unsignedOnes, unverifiedOnes⟩ := by
  refine ⟨_, unsigned_eq listed, items_signoffComment listed guide, ?_, ?_⟩
  · constructor
    · intro known
      rcases known with ⟨unverifiedOnes, known⟩
      exact ((unverified_eq_iff listed).mp known).1
    · intro readable
      exact ⟨_, (unverified_eq_iff listed).mpr ⟨readable, rfl⟩⟩
  · intro unverifiedOnes known
    rw [((unverified_eq_iff listed).mp known).2]
    exact agree_findings listed guide total

def plainCommit (identifier message : String) : Json :=
  .object [("sha", .text identifier), ("commit", .object [("message", .text message)])]

/-- Neither a message that looks like an item nor one that begins with an empty line changes the
list. -/
theorem renderings_agree_forged :
    let forged := plainCommit "0123456789" "- fix\n- `7654321` all is well"
    let bare := plainCommit "fedcba9876" "\nSigned-off-by: Ada <ada@example.org>"
    (∀ commit ∈ [forged, bare], IsListed commit) ∧
      Settings.standard.signingGuide.IsUnbroken ∧
      ∃ unsignedOnes, unsigned [forged, bare] = .ok unsignedOnes ∧
        items (signoffComment unsignedOnes .standard) = (["- `0123456` - fix"] : List Wording) ∧
        ∃ unverifiedOnes, unverified [forged, bare] = .ok unverifiedOnes ∧
          items (signatureComment unverifiedOnes .standard) =
            (["- `0123456` - fix", "- `fedcba9` (no message)"] : List Wording) := by
  intro forged bare
  have listed : ∀ commit ∈ [forged, bare], IsListed commit := by
    simp only [List.forall_mem_cons]
    exact ⟨⟨⟨_, rfl⟩, _, rfl, by decide⟩, ⟨⟨_, rfl⟩, _, rfl, by decide⟩, nofun⟩
  have guide : Settings.standard.signingGuide.IsUnbroken := by decide +kernel
  have readable : ∀ commit ∈ [forged, bare], HasReadableSignature commit := by
    simp only [List.forall_mem_cons]
    exact ⟨.inl rfl, .inl rfl, nofun⟩
  rcases renderings_agree listed guide 2 with ⟨unsignedOnes, unsignedAre, signoff, known, agree⟩
  rcases known.mpr readable with ⟨unverifiedOnes, unverifiedAre⟩
  have signature := (agree unverifiedOnes unverifiedAre).signature
  refine ⟨listed, guide, unsignedOnes, unsignedAre, signoff.trans ?_, unverifiedOnes, unverifiedAre,
    signature.trans ?_⟩
  · decide +kernel
  · decide +kernel

end Steward.Commit
