import Steward.Proofs.Yaml.Draft

/-! Composing a document. The nodes are what the tokens write, and a fault is that of the tokens, or
collections are too many within each other. Each collection inside another begins with a token of
its own, so there are no more of them than such tokens. -/

namespace Steward.Yaml

section

variable {α β : Type} {stream : TokenStream} {depth : Nat} {left : List Token}

/-! ## Properties -/

theorem composes_anchorHere :
    Composes stream depth left (fun found rest => splitAnchor left = (found, rest))
      Compose.anchorHere := by
  refine .stay stays_peek fun token shows => ?_
  cases token with
  | anchor name =>
      rw [shows.eq_cons nofun]
      exact .skip (.pure rfl)
  | _ =>
      refine .pure ?_
      unfold splitAnchor
      split
      · cases shows
      · rfl

theorem composes_tagHere :
    Composes stream depth left (fun found rest => splitTag left = (found, rest))
      Compose.tagHere := by
  refine .stay stays_peek fun token shows => ?_
  cases token with
  | tag handle suffix =>
      rw [shows.eq_cons nofun]
      exact .skip (.pure rfl)
  | _ =>
      refine .pure ?_
      unfold splitTag
      split
      · cases shows
      · rfl

/-- The properties of a node are taken with the tag that the tokens name in full. -/
theorem composes_properties (isPlace : IsPlace stream.tokens left) :
    Composes stream depth left (fun found rest => IsTagged stream.tokens found.2 rest)
      Compose.properties := by
  refine .bind composes_anchorHere fun early rest anchored _ => ?_
  refine .bind composes_tagHere fun tag rest tagged _ => ?_
  cases tag with
  | none =>
      exact .pure ⟨left, none, isPlace, by simp [splitProperties, anchored, tagged], .untagged⟩
  | some tag =>
      rcases tag with ⟨handle, suffix⟩
      have named (name : Option String) (rest : List Token)
          (split : splitProperties left = (some (handle, suffix), rest)) :
          Composes stream depth rest (fun found rest => IsTagged stream.tokens found.2 rest)
            (do return (name, some (← Compose.tagName handle suffix))) :=
        .stay (stays_tagName handle suffix) fun full isFull =>
          .pure ⟨left, _, isPlace, split, isFull⟩
      dsimp only
      split
      · rename_i isEarly
        rcases Option.isSome_iff_exists.mp isEarly with ⟨early, rfl⟩
        exact named (some early) rest (by simp [splitProperties, anchored, tagged])
      · rename_i isLate
        cases Option.not_isSome_iff_eq_none.mp isLate
        refine .bind composes_anchorHere fun name rest anchoredLate _ => named name rest ?_
        simp [splitProperties, anchored, tagged, anchoredLate]

/-! ## Nodes from tokens -/

theorem isSound_mapping {tokens : List Token} {name : Option String}
    (tagged : ∀ full ∈ name, TagsMapping tokens full) (entries : List Entry) :
    (Node.mapping (Compose.collectionTag name .mapping) entries).IsSound tokens := by
  unfold Compose.collectionTag
  split
  · exact .mapping (by decide) entries
  · exact .mapping (by decide) entries
  · exact .tagged (tagged _ rfl) entries

theorem composes_collection {empty : Node} {make : α → Node} {content : Compose α}
    (emptySound : empty.IsSound stream.tokens) (sound : ∀ value, (make value).IsSound stream.tokens)
    (name : Option String) (shallow : depth ≤ stream.tokens.countP Token.opens)
    (inner : Composes stream (depth + 1) left Anyhow content) :
    Composes stream depth left Anyhow (do
      let number ← Compose.add empty
      Compose.anchor name number
      Compose.replace number (make (← Compose.within content))
      return number) := by
  refine .stay (stays_add emptySound) fun number _ => ?_
  refine .stay (stays_anchor name number) fun _ _ => ?_
  refine .bind (.within shallow inner) fun value rest _ _ => ?_
  exact .stay (stays_replace (sound value) number) fun _ _ => .pure trivial

/-- All ways to compose, with loops bounded alike. Where a collection begins without a token taken,
the room needed is that after its first one. -/
structure AllCompose (stream : TokenStream) (bound : Nat) : Prop where
  node : ∀ inBlock indentless depth left, Room stream depth left → IsPlace stream.tokens left →
    Composes stream depth left Anyhow (Compose.node bound inBlock indentless)
  blockItems : ∀ depth left, Room stream depth left →
    Composes stream depth left Anyhow (Compose.blockItems bound)
  indentlessItems : ∀ depth left, left <:+ stream.tokens → Room stream depth (left.drop 1) →
    Composes stream depth left Anyhow (Compose.indentlessItems bound)
  blockEntries : ∀ depth left, Room stream depth left →
    Composes stream depth left Anyhow (Compose.blockEntries bound)
  flowItems : ∀ isFirst depth left, Room stream depth left →
    (isFirst = true → IsPlace stream.tokens left) →
    Composes stream depth left Anyhow (Compose.flowItems bound isFirst)
  flowEntry : ∀ closing depth left, Room stream depth (left.drop 1) →
    IsPlace stream.tokens (left.drop 1) →
    Composes stream depth left Anyhow (Compose.flowEntry bound closing)
  flowEntries : ∀ isFirst depth left, Room stream depth left →
    (isFirst = true → IsPlace stream.tokens left) →
    Composes stream depth left Anyhow (Compose.flowEntries bound isFirst)

section

variable {bound : Nat} {inBlock indentless isFirst : Bool} {closing : Token}

theorem composes_node (all : AllCompose stream bound) (room : Room stream depth left)
    (isPlace : IsPlace stream.tokens left) :
    Composes stream depth left Anyhow (Compose.node (bound + 1) inBlock indentless) := by
  rw [Compose.node]
  refine .stay stays_peek fun token _ => ?_
  split
  · exact .skip (.of_stays (stays_aliased _))
  · refine .bind (composes_properties isPlace) fun found rest tagged fewer => ?_
    rcases found with ⟨name, tag⟩
    have room := room.mono fewer
    refine .stay stays_peek fun token shows => ?_
    dsimp only
    split
    · rw [shows.eq_cons nofun] at tagged
      exact .skip (.stay (stays_add (.scalar (.scalar tagged))) fun number _ =>
        .stay (stays_anchor name number) fun _ _ => .pure trivial)
    · rename_i noScalar
      -- Any other token begins one of five collections, or the node is empty.
      refine .ite (fun begins => ?_) fun _ => .ite (fun begins => ?_) fun noItems =>
        .ite (fun begins => ?_) fun noEntries => .ite (fun begins => ?_) fun _ =>
          .ite (fun begins => ?_) fun _ => .ite (fun _ => ?_) fun _ => .fail
      · have deeper := room.deeper shows (by simp at begins; simp [begins, Token.opens])
        exact composes_collection (.sequence _ _) (.sequence _) name room.shallow
          (all.indentlessItems _ _ room.ends deeper)
      · cases eq_of_beq begins
        have after := shows.isPlace room.ends nofun rfl
        exact .skip (composes_collection (.sequence _ _) (.sequence _) name room.shallow
          (all.flowItems _ _ _ (room.deeper shows rfl) fun _ => after))
      · cases eq_of_beq begins
        have after := shows.isPlace room.ends nofun rfl
        rw [shows.eq_cons nofun] at tagged
        have tagsMapping : ∀ full ∈ tag, TagsMapping stream.tokens full :=
          fun full same => ⟨_, .inl (same ▸ tagged)⟩
        exact .skip
          (composes_collection (isSound_mapping tagsMapping _) (isSound_mapping tagsMapping)
          name room.shallow (all.flowEntries _ _ _ (room.deeper shows rfl) fun _ => after))
      · have deeper := room.deeper shows (by simp at begins; simp [begins, Token.opens])
        exact .skip (composes_collection (.sequence _ _) (.sequence _) name room.shallow
          (all.blockItems _ _ deeper))
      · cases eq_of_beq (Bool.and_eq_true_iff.mp begins).2
        rw [shows.eq_cons nofun] at tagged
        have tagsMapping : ∀ full ∈ tag, TagsMapping stream.tokens full :=
          fun full same => ⟨_, .inr (same ▸ tagged)⟩
        exact .skip
          (composes_collection (isSound_mapping tagsMapping _) (isSound_mapping tagsMapping)
          name room.shallow (all.blockEntries _ _ (room.deeper shows rfl)))
      · have bare : (rest.headD .streamEnd).isContent = false := by
          rw [shows]
          cases token <;> simp_all [Token.isContent]
        exact .stay (stays_add (.scalar (.empty tagged bare))) fun number _ =>
          .stay (stays_anchor name number) fun _ _ => .pure trivial

/-- A node, or an empty one where nothing is written, and what follows it. -/
theorem composes_nodeOrEmpty (all : AllCompose stream bound) (room : Room stream depth left)
    (isPlace : IsPlace stream.tokens left) {isEmpty : Bool} {last : β → List Token → Prop}
    {next : Nat → Compose β}
    (continues : ∀ number rest, rest <:+ left → Composes stream depth rest last (next number)) :
    Composes stream depth left last
      (if isEmpty = true then Compose.addEmpty >>= next
        else Compose.node bound inBlock indentless >>= next) := by
  split
  · exact .stay stays_addEmpty fun number _ => continues number left List.suffix_rfl
  · exact .bind (all.node _ _ _ _ room isPlace) fun number rest _ fewer =>
      continues number rest fewer

/-- The value after a key, which is empty where none is written. -/
theorem composes_valueOrEmpty (all : AllCompose stream bound) (room : Room stream depth left)
    {endsEntry : Token → Bool} {last : β → List Token → Prop} {next : Nat → Compose β}
    (continues : ∀ number rest, rest <:+ left → Composes stream depth rest last (next number)) :
    Composes stream depth left last (do
      if (← Compose.peek) == .value then
        Compose.skip
        if endsEntry (← Compose.peek) then next (← Compose.addEmpty)
        else next (← Compose.node bound inBlock indentless)
      else next (← Compose.addEmpty)) := by
  refine .stay stays_peek fun token shows => ?_
  split
  · rename_i isValue
    cases eq_of_beq isValue
    have dropped := List.drop_suffix 1 left
    have after := shows.isPlace room.ends nofun rfl
    refine .skip (.stay stays_peek fun token _ => ?_)
    exact composes_nodeOrEmpty all (room.mono dropped) after fun number rest fewer =>
      continues number rest (fewer.trans dropped)
  · exact .stay stays_addEmpty fun number _ => continues number left List.suffix_rfl

theorem composes_blockItems (all : AllCompose stream bound) (room : Room stream depth left) :
    Composes stream depth left Anyhow (Compose.blockItems (bound + 1)) := by
  rw [Compose.blockItems]
  refine .stay stays_peek fun token shows => ?_
  split
  · have after := shows.isPlace room.ends nofun rfl
    have room := room.mono (List.drop_suffix 1 left)
    refine .skip (.stay stays_peek fun next _ => ?_)
    refine composes_nodeOrEmpty all room after fun item rest fewer => ?_
    exact .bind (all.blockItems _ _ (room.mono fewer)) fun _ _ _ _ => .pure trivial
  · exact .skip (.pure trivial)
  · exact .fail

theorem composes_indentlessItems (all : AllCompose stream bound) (ends : left <:+ stream.tokens)
    (room : Room stream depth (left.drop 1)) :
    Composes stream depth left Anyhow (Compose.indentlessItems (bound + 1)) := by
  rw [Compose.indentlessItems]
  refine .stay stays_peek fun token shows => ?_
  split
  · exact .pure trivial
  · rename_i isEntry
    have after :=
      shows.isPlace ends (by rintro rfl; simp at isEntry) (by simp_all [Token.isProperty])
    refine .skip (.stay stays_peek fun next _ => ?_)
    refine composes_nodeOrEmpty all room after fun item rest fewer => ?_
    have room := room.mono fewer
    refine .bind (all.indentlessItems _ _ room.ends (room.mono (List.drop_suffix 1 rest))) ?_
    exact fun _ _ _ _ => .pure trivial

theorem composes_blockEntries (all : AllCompose stream bound) (room : Room stream depth left) :
    Composes stream depth left Anyhow (Compose.blockEntries (bound + 1)) := by
  rw [Compose.blockEntries]
  refine .stay stays_peek fun token shows => ?_
  split
  · have after := shows.isPlace room.ends nofun rfl
    have room := room.mono (List.drop_suffix 1 left)
    refine .skip (.stay stays_peek fun next _ => ?_)
    refine composes_nodeOrEmpty all room after fun key rest fewer => ?_
    have room := room.mono fewer
    refine composes_valueOrEmpty all room fun value rest fewer => ?_
    exact .bind (all.blockEntries _ _ (room.mono fewer)) fun _ _ _ _ => .pure trivial
  · exact .skip (.pure trivial)
  · exact .fail

/-- A node may begin behind a comma, and the first one where the collection does. -/
theorem composes_separator (ends : left <:+ stream.tokens)
    (first : isFirst = true → IsPlace stream.tokens left) :
    Composes stream depth left (fun _ rest => IsPlace stream.tokens rest)
      (Compose.separator isFirst) := by
  unfold Compose.separator
  split
  · exact .pure (first ‹_›)
  · refine .stay stays_peek fun token shows => ?_
    split
    · rename_i isComma
      cases eq_of_beq isComma
      exact bind_pure Compose.skip ▸ .skip (.pure (shows.isPlace ends nofun rfl))
    · exact .fail

theorem composes_flowItems (all : AllCompose stream bound) (room : Room stream depth left)
    (first : isFirst = true → IsPlace stream.tokens left) :
    Composes stream depth left Anyhow (Compose.flowItems (bound + 1) isFirst) := by
  rw [Compose.flowItems]
  refine .stay stays_peek fun token _ => ?_
  split
  · exact .skip (.pure trivial)
  · refine .bind (composes_separator room.ends first) fun _ rest isPlace fewer => ?_
    have room := room.mono fewer
    refine .stay stays_peek fun token shows => ?_
    have more {rest' : List Token} {number : Nat} (fewer : rest' <:+ rest) :
        Composes stream depth rest' Anyhow
          (do return number :: (← Compose.flowItems bound false)) :=
      .bind (all.flowItems _ _ _ (room.mono fewer) nofun) fun _ _ _ _ => .pure trivial
    split
    · exact .skip (.pure trivial)
    · have deeper := room.deeper shows rfl
      have after := shows.isPlace room.ends nofun rfl
      have sound (entries : List Entry) : (Node.mapping .mapping entries).IsSound stream.tokens :=
        .mapping (by decide) entries
      refine .stay (stays_add (sound [])) fun number _ => ?_
      refine .bind (.within room.shallow (all.flowEntry _ _ _ deeper after))
        fun entry rest _ fewer => ?_
      exact .stay (stays_replace (sound [entry]) number) fun _ _ => more fewer
    · exact .bind (all.node _ _ _ _ room isPlace) fun item rest _ fewer => more fewer

theorem composes_flowEntry (all : AllCompose stream bound)
    (room : Room stream depth (left.drop 1)) (after : IsPlace stream.tokens (left.drop 1)) :
    Composes stream depth left Anyhow (Compose.flowEntry (bound + 1) closing) := by
  rw [Compose.flowEntry]
  refine .skip (.stay stays_peek fun next _ => ?_)
  refine composes_nodeOrEmpty all room after fun key rest fewer => ?_
  exact composes_valueOrEmpty all (room.mono fewer) fun value rest fewer => .pure trivial

theorem composes_flowEntries (all : AllCompose stream bound) (room : Room stream depth left)
    (first : isFirst = true → IsPlace stream.tokens left) :
    Composes stream depth left Anyhow (Compose.flowEntries (bound + 1) isFirst) := by
  rw [Compose.flowEntries]
  refine .stay stays_peek fun token _ => ?_
  split
  · exact .skip (.pure trivial)
  · refine .bind (composes_separator room.ends first) fun _ rest isPlace fewer => ?_
    have room := room.mono fewer
    refine .stay stays_peek fun token shows => ?_
    have more {rest' : List Token} {entry : Entry} (fewer : rest' <:+ rest) :
        Composes stream depth rest' Anyhow
          (do return entry :: (← Compose.flowEntries bound false)) :=
      .bind (all.flowEntries _ _ _ (room.mono fewer) nofun) fun _ _ _ _ => .pure trivial
    split
    · exact .skip (.pure trivial)
    · have behind := room.mono (List.drop_suffix 1 rest)
      have after := shows.isPlace room.ends nofun rfl
      exact .bind (all.flowEntry _ _ _ behind after) fun entry rest _ fewer => more fewer
    · refine .bind (all.node _ _ _ _ room isPlace) fun key rest _ fewer => ?_
      exact .stay stays_addEmpty fun value _ => more fewer

end

theorem allCompose (stream : TokenStream) (bound : Nat) : AllCompose stream bound := by
  induction bound with
  | zero =>
      constructor
      all_goals
        intros
        exact .fail
  | succ bound all =>
      exact
        { node := fun _ _ _ _ room isPlace => composes_node all room isPlace
          blockItems := fun _ _ room => composes_blockItems all room
          indentlessItems := fun _ _ ends room => composes_indentlessItems all ends room
          blockEntries := fun _ _ room => composes_blockEntries all room
          flowItems := fun _ _ _ room first => composes_flowItems all room first
          flowEntry := fun _ _ _ room after => composes_flowEntry all room after
          flowEntries := fun _ _ _ room first => composes_flowEntries all room first }

/-! ## Documents -/

/-- Directives can only be malformed. What is left of the tokens follows them, and they say what
each handle stands for. -/
theorem meets_directives (hasVersion : Bool) (handles : List (String × String))
    (tokens : List Token) :
    Meets (fun read => read.2 <:+ tokens ∧
        ∀ pair ∈ read.1, pair ∈ handles ∨ Token.handle pair.1 pair.2 ∈ tokens)
      (Excuses (IsBlamed stream.tokens)) (Compose.directives hasVersion handles tokens) := by
  induction tokens generalizing hasVersion handles with
  | nil => exact ⟨List.suffix_rfl, fun _ => .inl⟩
  | cons token rest induction =>
      have onward {more : List (String × String)} (hasVersion : Bool)
          (grown : ∀ pair ∈ more, pair ∈ handles ∨ Token.handle pair.1 pair.2 ∈ token :: rest) :=
        (induction hasVersion more).weaken fun read found =>
          And.intro (found.1.trans (List.suffix_cons token rest)) fun pair among =>
            (found.2 pair among).elim (grown pair) fun written =>
              Or.inr (List.mem_cons_of_mem token written)
      cases token with
      | version major =>
          rw [Compose.directives]
          split
          · exact trivial
          · exact onward true fun _ => .inl
      | handle name start =>
          rw [Compose.directives]
          split
          · exact trivial
          · refine onward hasVersion fun pair among => ?_
            rcases List.mem_cons.mp among with rfl | earlier
            · exact .inr List.mem_cons_self
            · exact .inl earlier
      | otherDirective => exact onward hasVersion fun _ => .inl
      | _ => exact ⟨List.suffix_rfl, fun _ => .inl⟩

theorem composes_documentStart (ends : left <:+ stream.tokens) :
    Composes stream depth left (fun _ rest => IsPlace stream.tokens rest)
      Compose.documentStart := by
  refine .read fun draft placed => ?_
  rw [placed.tokensAre]
  refine .stay (.lift (meets_directives false [] left)) fun read found => ?_
  rcases found with ⟨fewer, declared⟩
  have standFor : ∀ pair ∈ read.1 ++ Compose.standardHandles,
      StandsFor stream.tokens (some pair.1) pair.2 := by
    intro pair among
    rcases List.mem_append.mp among with written | standard
    · rcases declared pair written with absent | written
      · cases absent
      · exact .directive (ends.mem written)
    · exact .standard standard
  refine .continueWith fewer ?_
  have names : Stays stream depth read.2 Anything
      (modify fun draft => { draft with handles := read.1 ++ Compose.standardHandles }) :=
    Runs.modify fun draft placed =>
      ⟨trivial, placed.tokensAre, placed.faultIs, placed.depthIs, placed.nodes, standFor⟩
  refine .stay names fun _ _ => .stay stays_peek fun token shows => ?_
  split
  · rename_i isStart
    cases eq_of_beq isStart
    have after := shows.isPlace (fewer.trans ends) nofun rfl
    exact bind_pure Compose.skip ▸ .skip (.pure after)
  · exact .fail

theorem composes_root (bound : Nat) (room : Room stream depth left)
    (isPlace : IsPlace stream.tokens left) :
    Composes stream depth left Anyhow (Compose.root bound) := by
  have all := allCompose stream bound
  refine .stay stays_peek fun token _ => ?_
  split
  · refine .bind (composes_documentStart room.ends) fun _ rest isPlace fewer => ?_
    refine .stay stays_peek fun next _ => ?_
    split
    · exact .of_stays stays_addEmpty
    · exact all.node _ _ _ _ (room.mono fewer) isPlace
  · exact all.node _ _ _ _ room isPlace

theorem composes_streamEnd (ends : left <:+ stream.tokens) :
    Composes stream depth left Anyhow Compose.streamEnd := by
  have fewer := List.dropWhile_suffix (l := left) (· == Token.documentEnd)
  refine .read fun draft placed => ?_
  rw [placed.tokensAre]
  refine .continueWith fewer (.stay stays_peek fun token _ => ?_)
  split
  · exact .pure trivial
  · exact .bind (composes_documentStart (fewer.trans ends)) fun _ _ _ _ => .fail

theorem composes_document (bound : Nat) (room : Room stream depth left)
    (isPlace : IsPlace stream.tokens left) :
    Composes stream depth left Anyhow (Compose.document bound) := by
  refine .stay stays_peek fun token _ => ?_
  split
  · exact .pure trivial
  · refine .bind (composes_root bound room isPlace) fun number rest _ fewer => ?_
    exact .bind (composes_streamEnd (fewer.trans room.ends)) fun _ _ _ _ => .pure trivial

end

/-- The nodes of a document are what the tokens of its stream bring about, and if there is no
document, they or the end of the stream account for it. -/
theorem Document.ofStream_sound (stream : TokenStream) :
    Meets (fun found => ∀ document ∈ found, AreSound stream.tokens document.nodes) (Accounts stream)
      (Document.ofStream stream) := by
  have room : Room stream 0 stream.tokens := ⟨List.suffix_rfl, Nat.le_of_eq (Nat.zero_add _)⟩
  have begins : Draft.IsAt stream 0 stream.tokens ⟨stream, #[], [], Compose.standardHandles, 0⟩ :=
    ⟨rfl, rfl, rfl, nofun, fun _ => .standard⟩
  refine (composes_document _ room (isPlace_self _) _ begins).bind fun ended reached => ?_
  rcases reached with ⟨rest, -, -, placed⟩
  intro document found
  rcases Option.map_eq_some_iff.mp found with ⟨number, -, rfl⟩
  exact placed.nodes

end Steward.Yaml
