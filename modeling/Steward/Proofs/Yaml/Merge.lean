import Steward.Proofs.Yaml.Node
import Steward.Yaml.Merge

/-! Merging brings no new scalars about: nodes stay what tokens have written, and mappings stay
mappings. It fails only where a text is malformed. -/

namespace Steward.Yaml

variable {tokens : List Token} {first nodes others : Array Node} {number : Nat}

def IsMappingAt (nodes : Array Node) (number : Nat) : Prop :=
  ∃ tag entries, nodes[number]? = some (.mapping tag entries)

/-- Nodes after some change, with all that later changes rely on. -/
structure Kept (tokens : List Token) (before after : Array Node) : Prop where
  sound : AreSound tokens before → AreSound tokens after
  mappings : ∀ number, IsMappingAt before number → IsMappingAt after number

theorem Kept.refl (nodes : Array Node) : Kept tokens nodes nodes :=
  ⟨id, fun _ => id⟩

theorem Kept.trans (earlier : Kept tokens first nodes) (later : Kept tokens nodes others) :
    Kept tokens first others :=
  ⟨fun sound => later.sound (earlier.sound sound),
    fun number mapping => later.mappings number (earlier.mappings number mapping)⟩

/-- A change of one node that suits it. -/
theorem Kept.modify {change : Node → Node}
    (sound : ∀ node, nodes[number]? = some node → node.IsSound tokens →
      (change node).IsSound tokens)
    (mapping : ∀ tag entries, ∃ tag' entries',
      change (.mapping tag entries) = .mapping tag' entries') :
    Kept tokens nodes (nodes.modify number change) := by
  constructor
  · intro areSound node among
    rcases Array.mem_iff_getElem?.mp among with ⟨place, found⟩
    rw [Array.getElem?_modify] at found
    split at found
    · rcases Option.map_eq_some_iff.mp found with ⟨old, oldFound, rfl⟩
      rename_i same
      exact sound old (same ▸ oldFound) (areSound old (Array.mem_of_getElem? oldFound))
    · exact areSound node (Array.mem_of_getElem? found)
  · rintro place ⟨tag, entries, found⟩
    by_cases same : number = place
    · rcases mapping tag entries with ⟨tag', entries', changed⟩
      refine ⟨tag', entries', ?_⟩
      rw [Array.getElem?_modify, if_pos same, found, Option.map_some, changed]
    · refine ⟨tag, entries, ?_⟩
      rw [Array.getElem?_modify, if_neg same, found]

/-- A mapping may have any entries. -/
theorem Node.IsSound.withEntries {tag : Tag} {entries : List Entry}
    (sound : (Node.mapping tag entries).IsSound tokens) (others : List Entry) :
    (Node.mapping tag others).IsSound tokens := by
  cases sound with
  | mapping ordinary => exact .mapping ordinary others
  | tagged tags => exact .tagged tags others
  | value tags isValue => exact .value tags isValue others

/-- What has the tag of the value key may become a text. -/
theorem Node.IsSound.settled {node : Node} (sound : node.IsSound tokens)
    (isValue : node.tag = .value) : (node.withTag .text).IsSound tokens := by
  cases sound with
  | scalar written => exact .text written.content
  | text content => exact .text content
  | omitted => cases isValue
  | sequence tag items => exact .sequence .text items
  | mapping ordinary => exact absurd isValue ordinary.2
  | tagged tags entries => exact .value tags isValue entries
  | value tags wasValue entries => exact .value tags wasValue entries

namespace Merge

theorem isMappingAt_of_entries (present : entriesOf nodes number ≠ []) :
    IsMappingAt nodes number := by
  unfold entriesOf at present
  cases found : nodes[number]? with
  | none => simp [found] at present
  | some node =>
      cases node with
      | mapping tag entries => exact ⟨tag, entries, found⟩
      | _ => simp [found, Node.entries] at present

theorem kept_setEntries (mapping : IsMappingAt nodes number) (entries : List Entry) :
    Kept tokens nodes (setEntries nodes number entries) := by
  rcases mapping with ⟨tag, old, found⟩
  refine .modify (fun node foundToo sound => ?_) fun tag entries => ⟨tag, _, rfl⟩
  cases found.symm.trans foundToo
  exact sound.withEntries entries

theorem kept_settleKeys (nodes : Array Node) (entries : List Entry) :
    Kept tokens nodes (settleKeys nodes entries) := by
  induction entries generalizing nodes with
  | nil => exact .refl nodes
  | cons entry rest induction =>
      refine .trans ?_ (induction _)
      dsimp only
      split
      · rename_i isValue
        refine .modify (fun node found sound => sound.settled ?_) fun _ entries => ⟨_, entries, rfl⟩
        simpa [tagOf, found] using isValue
      · exact .refl nodes

def Keeps {α : Type} (tokens : List Token) (action : Merge α) : Prop :=
  ∀ first, Runs (Kept tokens first) action (fun _ => Kept tokens first)
    (Excuses (IsBlamed tokens))

theorem keeps_takeSource (number : Nat) : Keeps tokens (takeSource number) := by
  refine fun first => Runs.read fun nodes kept => ?_
  dsimp only
  split
  · exact .pure fun _ same => same ▸ kept
  · rename_i rest' source rest left
    have mapping : IsMappingAt nodes number := by
      refine isMappingAt_of_entries fun none => ?_
      simp [none] at left
    refine .bind (.set fun _ _ => ?_) fun _ => .pure fun _ => id
    exact kept.trans (kept_setEntries mapping _)

/-- The entries that stand behind a merge key are those of mappings. -/
theorem runs_mappings (source : Nat) :
    Runs (· = nodes) (mappings source)
      (fun items current => current = nodes ∧ ∀ item ∈ items, IsMappingAt nodes item)
      (Excuses (IsBlamed tokens)) := by
  refine Runs.read fun current same => ?_
  subst same
  split
  · rename_i found
    refine .pure fun _ same => ⟨same, fun item among => ?_⟩
    rw [List.mem_singleton.mp among]
    exact ⟨_, _, found⟩
  · refine .ite (fun areMappings => .pure fun _ same => ⟨same, fun item among => ?_⟩)
      fun _ => .throw trivial
    have isMapping := List.all_eq_true.mp areMappings item among
    cases found : current[item]? with
    | none => simp [found] at isMapping
    | some node =>
        cases node with
        | mapping tag entries => exact ⟨tag, entries, found⟩
        | _ => simp [found, Node.isMapping] at isMapping
  · exact .throw trivial

theorem runs_putInFront (mapping : IsMappingAt first number) (entries : List Entry) :
    Runs (Kept tokens first) (putInFront number entries) (fun _ => Kept tokens first)
      (Excuses (IsBlamed tokens)) := by
  refine Runs.read fun nodes kept => ?_
  refine .bind (.set fun _ _ => ?_) fun _ => .pure fun _ => id
  have set (entries : List Entry) : Kept tokens nodes (setEntries nodes number entries) :=
    kept_setEntries (kept.mappings number mapping) entries
  exact kept.trans ((set _).trans (kept_settleKeys _ _))

theorem keeps_brought (bound number : Nat) : Keeps tokens (brought bound number) := by
  induction bound generalizing number with
  | zero => exact fun first => .pure fun _ => id
  | succ bound induction =>
      refine fun first => .bind (keeps_takeSource number first) fun source => ?_
      cases source with
      | none => exact .pure fun _ => id
      | some source =>
          -- What is listed are mappings as of now, so from here on nodes are kept as they are now.
          intro now kept
          refine Meets.weaken ((?_ : Runs (· = now) _ (fun _ => Kept tokens now) _) now rfl)
            fun _ => kept.trans
          refine .bind (runs_mappings source) fun items => .given fun areMappings => ?_
          refine Runs.strengthen (?_ : Runs (Kept tokens now) _ _ _) fun state same =>
            same ▸ .refl state
          refine .bind (.mapM fun item among => ?_) fun lists => ?_
          · exact .bind (induction item now) fun entries =>
              runs_putInFront (areMappings item among) entries
          · exact .bind (induction number now) fun entries => .pure fun _ => id

theorem runs_flatten (bound : Nat) (mapping : IsMappingAt first number) :
    Runs (Kept tokens first) (flatten bound number) (fun _ => Kept tokens first)
      (Excuses (IsBlamed tokens)) :=
  .bind (keeps_brought bound number first) fun entries => runs_putInFront mapping entries

end Merge

end Steward.Yaml
