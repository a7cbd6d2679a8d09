import Steward.Proofs.Yaml.Merge
import Steward.Proofs.Yaml.Scanner

/-! Building the value of a document. A part without a value comes from what tokens have written. -/

namespace Steward.Yaml

variable {tokens : List Token} {nodes : Array Node} {number : Nat}

namespace Build

/-! ## Scalars -/

/-- The text of a node is one that tokens write. There is none where the text is malformed, and in a
mapping that is its own value. -/
theorem meets_scalarText (sound : AreSound tokens nodes) (bound number : Nat) :
    Meets (IsContent tokens) (fun fault => fault = .malformed ∨ fault = .value .nesting)
      (scalarText nodes bound number) := by
  induction bound generalizing number with
  | zero => exact .inr rfl
  | succ bound induction =>
      rw [scalarText]
      split
      · rename_i found
        cases sound _ (Array.mem_of_getElem? found) with
        | scalar written => exact written.content
        | text content => exact content
        | omitted => exact .inl rfl
      · split
        · exact induction _
        · exact .inl rfl
      · exact .inl rfl

/-- A text is blamed for what it lacks as a scalar. -/
theorem meets_ofScalar {tag : Tag} {text : Wording}
    (blamed : ∀ fault, Datum.ofScalar tag text = .error (.value fault) → IsBlamed tokens fault) :
    Meets Anything (Excuses (IsBlamed tokens)) (Datum.ofScalar tag text) := by
  cases valueless : Datum.ofScalar tag text with
  | ok value => exact trivial
  | error fault =>
      cases fault with
      | malformed => exact trivial
      | value fault => exact blamed fault valueless

theorem datum_eq {tag : Tag} (tagIs : Merge.tagOf nodes number = tag)
    (isScalar : tag.isScalar = true) :
    datum nodes number = (do
      let text ← scalarText nodes (nodes.size + 1) number
      if (tag = .timestamp && (nodes[number]?.map Node.isMapping).getD false) = true then
        .error (.value .timestampMapping)
      else Datum.ofScalar tag text) := by
  subst tagIs
  simp [datum, isScalar]

theorem datum_scalar {tag : Tag} {text : Wording} (found : nodes[number]? = some (.scalar tag text))
    (isScalar : tag.isScalar = true) : datum nodes number = Datum.ofScalar tag text := by
  have tagIs : Merge.tagOf nodes number = tag := by simp [Merge.tagOf, found, Node.tag]
  have textIs : scalarText nodes (nodes.size + 1) number = .ok text := by
    simp only [scalarText, found]
  have noMapping : (nodes[number]?.map Node.isMapping).getD false = false := by
    rw [found]
    rfl
  rw [datum_eq tagIs isScalar, textIs, noMapping, Bool.and_false]
  rfl

/-- A mapping in the place of a scalar. It fails as a point in time, for its text, or because it has
none. -/
theorem meets_datum_mapping {tag : Tag} {entries : List Entry} (sound : AreSound tokens nodes)
    (found : nodes[number]? = some (.mapping tag entries)) (isScalar : tag.isScalar = true)
    (nesting : IsBlamed tokens .nesting)
    (timestamp : tag = .timestamp → IsBlamed tokens .timestampMapping)
    (value : ∀ text, IsContent tokens text →
      Meets Anything (Excuses (IsBlamed tokens)) (Datum.ofScalar tag text)) :
    Meets Anything (Excuses (IsBlamed tokens)) (datum nodes number) := by
  have tagIs : Merge.tagOf nodes number = tag := by simp [Merge.tagOf, found, Node.tag]
  have hasText : Meets (IsContent tokens) (Excuses (IsBlamed tokens))
      (scalarText nodes (nodes.size + 1) number) := by
    refine (meets_scalarText sound _ number).excuse fun fault cause => ?_
    rcases cause with rfl | rfl
    · exact trivial
    · exact nesting
  rw [datum_eq tagIs isScalar]
  refine hasText.bind fun text content => ?_
  split
  · rename_i isTimestamp
    exact timestamp (of_decide_eq_true (Bool.and_eq_true_iff.mp isTimestamp).1)
  · exact value text content

/-- A scalar's value fails for its text, and a mapping's for its tag or for the text that it has in
the place of one. -/
theorem meets_datum (sound : AreSound tokens nodes) (number : Nat) :
    Meets Anything (Excuses (IsBlamed tokens)) (datum nodes number) := by
  by_cases isScalar : (Merge.tagOf nodes number).isScalar = true
  · cases found : nodes[number]? with
    | none => simp [Merge.tagOf, found, Tag.isScalar] at isScalar
    | some node =>
        have tagIs : Merge.tagOf nodes number = node.tag := by simp [Merge.tagOf, found]
        rw [tagIs] at isScalar
        cases sound node (Array.mem_of_getElem? found) with
        | scalar written =>
            rw [datum_scalar found isScalar]
            exact meets_ofScalar fun _ => .scalar written
        | text content =>
            rw [datum_scalar found isScalar]
            exact trivial
        | omitted =>
            rw [datum_scalar found isScalar]
            exact trivial
        | sequence tag items =>
            rw [datum_eq tagIs isScalar]
            simp only [scalarText, found]
            exact trivial
        | mapping ordinary => exact absurd (ordinary.1.symm.trans isScalar) Bool.false_ne_true
        | tagged tags =>
            exact meets_datum_mapping sound found isScalar (.ownValue tags (.inl isScalar))
              (.timestampMapping tags) fun text content =>
                meets_ofScalar fun _ => .mapping tags content
        | value tags isValue =>
            exact meets_datum_mapping sound found isScalar (.ownValue tags (.inr isValue))
              (fun isTimestamp => absurd isTimestamp (by decide)) fun text _ => trivial
  · have refused : datum nodes number = .error .malformed := by
      unfold datum
      dsimp only
      rw [Bool.eq_false_iff.mpr isScalar]
      rfl
    rw [refused]
    exact trivial

/-! ## Collections -/

/-- Building that leaves sound nodes behind, and fails only for a reason. -/
def Builds {α : Type} (tokens : List Token) (action : Build α) : Prop :=
  Runs (fun building => AreSound tokens building.nodes) action
    (fun _ building => AreSound tokens building.nodes) (Excuses (IsBlamed tokens))

section

variable {α β : Type}

theorem Builds.pure {value : α} : Builds tokens (Pure.pure value) :=
  Runs.pure fun _ => id

theorem Builds.fail : Builds tokens (fail : Build α) :=
  Runs.throw trivial

theorem Builds.bind {action : Build α} {next : α → Build β} (first : Builds tokens action)
    (continues : ∀ value, Builds tokens (next value)) : Builds tokens (action >>= next) :=
  Runs.bind first continues

theorem Builds.read {next : Building → Build β}
    (continues : ∀ building : Building, AreSound tokens building.nodes →
      Builds tokens (next building)) : Builds tokens (get >>= next) :=
  Runs.read fun building sound =>
    (continues building sound).strengthen fun _ same => same ▸ sound

/-- The nodes are those of the state that the rest begins with. -/
theorem Builds.readNodes {next : Array Node → Build β}
    (continues : ∀ building : Building, AreSound tokens building.nodes →
      Runs (· = building) (next building.nodes)
        (fun _ building => AreSound tokens building.nodes) (Excuses (IsBlamed tokens))) :
    Builds tokens (Build.nodes >>= next) := by
  unfold Build.nodes
  rw [bind_assoc]
  exact Runs.read continues

theorem Builds.ite {condition : Prop} [Decidable condition] {action other : Build α}
    (holds : Builds tokens action) (fails : Builds tokens other) :
    Builds tokens (if condition then action else other) :=
  Runs.ite (fun _ => holds) fun _ => fails

theorem Builds.at {action : Build α} (builds : Builds tokens action) {building : Building}
    (sound : AreSound tokens building.nodes) :
    Runs (· = building) action (fun _ building => AreSound tokens building.nodes)
      (Excuses (IsBlamed tokens)) :=
  builds.strengthen fun _ same => same ▸ sound

theorem builds_remember (number : Nat) (part : Part) : Builds tokens (remember number part) :=
  Runs.modify fun _ => id

theorem builds_part (number : Nat) : Builds tokens (part number) := by
  refine .read fun building sound => ?_
  split
  · exact .pure
  · have putOff : Builds tokens (do
        remember number Part.collection
        modify fun building => { building with waiting := building.waiting ++ [number] }
        return Part.collection) :=
      .bind (builds_remember number _) fun _ => .bind (Runs.modify fun _ => id) fun _ => .pure
    split
    · exact putOff
    · exact putOff
    · exact putOff
    · exact putOff
    · exact putOff
    · have builds : Builds tokens (liftM (datum building.nodes number)) :=
        .lift (meets_datum sound number) fun _ _ _ => id
      exact .bind builds fun datum => .bind (builds_remember number _) fun _ => .pure

theorem builds_fields (entries : List Entry) : Builds tokens (fields entries) := by
  induction entries with
  | nil => exact .pure
  | cons entry rest induction =>
      refine .bind (builds_part entry.1) fun key => ?_
      have continues : Builds tokens (do
          let value ← part entry.2
          return (key, value) :: (← fields rest)) :=
        .bind (builds_part entry.2) fun value => .bind induction fun _ => .pure
      exact .ite (.bind .fail fun _ => continues) continues

theorem builds_items (items : List Nat) : Builds tokens (Build.items items) := by
  induction items with
  | nil => exact .pure
  | cons item rest induction => exact .bind (builds_part item) fun _ => induction

theorem builds_pairEntries (items : List Nat) : Builds tokens (pairEntries items) := by
  induction items with
  | nil => exact .pure
  | cons item rest induction =>
      refine .readNodes fun building sound => ?_
      split
      · exact Builds.at
          (.bind (builds_part _) fun _ => .bind (builds_part _) fun _ => induction) sound
      · exact Builds.fail.at sound

/-- A mapping is merged into sound nodes. -/
theorem runs_merged {building : Building} (mapping : IsMappingAt building.nodes number)
    (sound : AreSound tokens building.nodes) :
    Runs (· = building) (merged number) (fun _ building => AreSound tokens building.nodes)
      (Excuses (IsBlamed tokens)) := by
  refine Runs.read fun current same => ?_
  subst same
  have merges : Meets (fun ended => Kept tokens current.nodes ended.2) (Excuses (IsBlamed tokens))
      ((Merge.flatten (Merge.bound current.nodes) number).run current.nodes) :=
    Merge.runs_flatten _ mapping current.nodes (.refl _)
  refine .bind (.lift merges fun ended _ kept _ => kept) fun ended => ?_
  exact .bind (.set fun _ kept => kept.sound sound) fun _ => .pure fun _ => id

theorem builds_content (number : Nat) : Builds tokens (content number) := by
  refine .readNodes fun building sound => ?_
  have fields (tag : Tag) (entries : List Entry)
      (found : building.nodes[number]? = some (.mapping tag entries)) :
      Runs (· = building) (do fields (← merged number))
        (fun _ building => AreSound tokens building.nodes) (Excuses (IsBlamed tokens)) :=
    .bind (runs_merged ⟨tag, entries, found⟩ sound) builds_fields
  split
  · exact Builds.at (.bind (builds_items _) fun _ => .pure) sound
  · exact Builds.at (.bind (builds_pairEntries _) fun _ => .pure) sound
  · exact Builds.at (.bind (builds_pairEntries _) fun _ => .pure) sound
  · exact fields _ _ ‹_›
  · exact fields _ _ ‹_›
  · exact Builds.fail.at sound

theorem builds_finish (bound : Nat) : Builds tokens (finish bound) := by
  induction bound with
  | zero => exact .pure
  | succ bound induction =>
      refine .read fun building _ => ?_
      split
      · exact .pure
      · refine .bind (Runs.modify fun _ => id) fun _ => ?_
        exact .bind (builds_content _) fun _ => induction

theorem builds_document (root : Nat) : Builds tokens (document root) := by
  refine .bind (builds_part root) fun part => ?_
  split
  · exact .pure
  · exact .pure
  · refine .bind (Runs.modify fun _ => id) fun _ => .bind (builds_content root) fun fields => ?_
    refine .readNodes fun building sound => Builds.at (.bind (builds_finish _) fun _ => ?_) sound
    exact .ite .pure (.ite .pure .pure)

end

end Build

theorem Document.meets_load {document : Document} (sound : AreSound tokens document.nodes) :
    Meets Anything (Excuses (IsBlamed tokens)) document.load :=
  (Build.builds_document document.root _ sound).bind fun _ _ => trivial

/-! ## Texts -/

theorem Excuses.blames {text : List Char} {fault : Fault}
    (excuses : Excuses (IsBlamed (TokenStream.ofText text).tokens) fault) :
    Excuses (Blames text) fault := by
  cases fault with
  | malformed => exact trivial
  | value fault => exact .tokens excuses

/-- A text has a value or is malformed, unless something in it is to blame. -/
theorem meets_load (text : Wording) :
    Meets Anything (Excuses (Blames text.shown.toList)) (load text) := by
  rcases text with ⟨text, _ | _⟩
  case cons => exact trivial
  have documents := (Document.ofStream_sound (.ofText text.toList)).excuse fun fault accounts =>
    accounts.elim Excuses.blames (TokenStream.excuses_ofText text.toList fault)
  refine documents.bind fun found sound => ?_
  cases found with
  | none => exact trivial
  | some document => exact (Document.meets_load (sound document rfl)).excuse fun _ => Excuses.blames

end Steward.Yaml
