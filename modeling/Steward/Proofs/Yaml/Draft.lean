import Steward.Proofs.Yaml.Blame

/-! Drafts of documents. Nodes are kept to what the tokens bring about, and a fault to what the
tokens or the end of their stream account for, by rules for what is put together of single steps. -/

namespace Steward.Yaml

/-! ## Nodes -/

/-- A node as some tokens bring it about. A mapping may have a tag of scalars; what had the tag of
the value key may have become a text. -/
inductive Node.IsSound (tokens : List Token) : Node → Prop
  | scalar {tag : Tag} {text : Wording} (written : IsWritten tokens tag text) :
      IsSound tokens (.scalar tag text)
  | text {text : Wording} (content : IsContent tokens text) : IsSound tokens (.scalar .text text)
  | omitted : IsSound tokens (.scalar .null "")
  | sequence (tag : Tag) (items : List Nat) : IsSound tokens (.sequence tag items)
  | mapping {tag : Tag} (ordinary : tag.isScalar = false ∧ tag ≠ .value) (entries : List Entry) :
      IsSound tokens (.mapping tag entries)
  | tagged {name : String} (tags : TagsMapping tokens name) (entries : List Entry) :
      IsSound tokens (.mapping (.ofName name) entries)
  | value {name : String} (tags : TagsMapping tokens name) (isValue : Tag.ofName name = .value)
      (entries : List Entry) : IsSound tokens (.mapping .text entries)

def AreSound (tokens : List Token) (nodes : Array Node) : Prop :=
  ∀ node ∈ nodes, node.IsSound tokens

/-! ## Drafts -/

/-- A draft of some stream of tokens, where so many collections are around and so many tokens are
left. -/
structure Draft.IsAt (stream : TokenStream) (depth : Nat) (left : List Token) (draft : Draft) :
    Prop where
  tokensAre : draft.stream.tokens = left
  faultIs : draft.stream.fault = stream.fault
  depthIs : draft.depth = depth
  nodes : AreSound stream.tokens draft.nodes
  handles : ∀ pair ∈ draft.handles, StandsFor stream.tokens (some pair.1) pair.2

/-- Room for more collections: each that is around has begun with a token. -/
structure Room (stream : TokenStream) (depth : Nat) (left : List Token) : Prop where
  ends : left <:+ stream.tokens
  fits : depth + left.countP Token.opens ≤ stream.tokens.countP Token.opens

/-- Faults that the tokens of a stream explain, or the fault that ends them. -/
def Accounts (stream : TokenStream) (fault : Fault) : Prop :=
  Excuses (IsBlamed stream.tokens) fault ∨ stream.fault = some fault

/-- An action that composes: it takes tokens from those left, and gives back the depth that it
found. Its value and the tokens that it leaves are good. -/
def Composes {α : Type} (stream : TokenStream) (depth : Nat) (left : List Token)
    (good : α → List Token → Prop) (action : Compose α) : Prop :=
  Runs (Draft.IsAt stream depth left) action
    (fun value draft => ∃ rest, good value rest ∧ rest <:+ left ∧ draft.IsAt stream depth rest)
    (Accounts stream)

def Anyhow {α : Type} : α → List Token → Prop := fun _ _ => True

def Stays {α : Type} (stream : TokenStream) (depth : Nat) (left : List Token) (good : α → Prop)
    (action : Compose α) : Prop :=
  Runs (Draft.IsAt stream depth left) action
    (fun value draft => good value ∧ draft.IsAt stream depth left) (Accounts stream)

def Shows (left : List Token) (token : Token) : Prop := left.headD .streamEnd = token

section

variable {α β : Type} {stream : TokenStream} {depth : Nat} {left : List Token}
  {good : α → List Token → Prop} {last : β → List Token → Prop} {action : Compose α}
  {next : α → Compose β} {token : Token}

theorem Shows.eq_cons (shows : Shows left token) (more : token ≠ .streamEnd) :
    left = token :: left.drop 1 := by
  cases left with
  | nil => exact absurd shows.symm more
  | cons first rest =>
      cases shows
      rfl

/-- Behind a token that is no property a node may begin. -/
theorem Shows.isPlace {tokens : List Token} (shows : Shows left token) (ends : left <:+ tokens)
    (more : token ≠ .streamEnd) (other : token.isProperty = false) : IsPlace tokens (left.drop 1) :=
  isPlace_of_cons (shows.eq_cons more ▸ ends) other

theorem Room.mono {rest : List Token} (room : Room stream depth left) (fewer : rest <:+ left) :
    Room stream depth rest where
  ends := fewer.trans room.ends
  fits := Nat.le_trans (Nat.add_le_add_left fewer.sublist.countP_le depth) room.fits

theorem Room.shallow (room : Room stream depth left) :
    depth ≤ stream.tokens.countP Token.opens :=
  Nat.le_trans (Nat.le_add_right _ _) room.fits

/-- A collection that begins with a token of its own may be composed around the rest. -/
theorem Room.deeper (room : Room stream depth left) (shows : Shows left token)
    (opens : token.opens = true) : Room stream (depth + 1) (left.drop 1) := by
  have begins := shows.eq_cons (by rintro rfl; cases opens)
  have fits := room.fits
  rw [begins, List.countP_cons_of_pos opens] at fits
  exact ⟨(List.drop_suffix 1 left).trans room.ends, by omega⟩

/-! ## Rules -/

namespace Composes

theorem pure {value : α} (holds : good value left) :
    Composes stream depth left good (Pure.pure value) :=
  Runs.pure fun _ placed => ⟨left, holds, List.suffix_rfl, placed⟩

theorem fail : Composes stream depth left good (Compose.fail : Compose α) :=
  Runs.throw (.inl trivial)

theorem bind (first : Composes stream depth left good action)
    (continues : ∀ value rest, good value rest → rest <:+ left →
      Composes stream depth rest last (next value)) :
    Composes stream depth left last (action >>= next) := by
  refine Runs.bind first fun value draft reached => ?_
  rcases reached with ⟨rest, holds, fewer, placed⟩
  refine (continues value rest holds fewer draft placed).weaken fun ended reached => ?_
  rcases reached with ⟨further, holds, fewest, placed⟩
  exact ⟨further, holds, fewest.trans fewer, placed⟩

theorem stay {good : α → Prop} (first : Stays stream depth left good action)
    (continues : ∀ value, good value → Composes stream depth left last (next value)) :
    Composes stream depth left last (action >>= next) :=
  Runs.bind first fun value draft reached => continues value reached.1 draft reached.2

theorem of_stays {good : α → Prop} (stays : Stays stream depth left good action) :
    Composes stream depth left Anyhow action :=
  stays.weaken fun _ _ reached => ⟨left, trivial, List.suffix_rfl, reached.2⟩

theorem ite {condition : Prop} [Decidable condition] {other : Compose α}
    (holds : condition → Composes stream depth left good action)
    (fails : ¬condition → Composes stream depth left good other) :
    Composes stream depth left good (if condition then action else other) :=
  Runs.ite holds fails

/-- The draft that is looked at stays as it is. -/
theorem read {next : Draft → Compose β}
    (continues : ∀ draft : Draft, draft.IsAt stream depth left →
      Composes stream depth left last (next draft)) :
    Composes stream depth left last (get >>= next) :=
  Runs.read fun draft placed => (continues draft placed).strengthen fun _ same => same ▸ placed

theorem continueWith {rest : List Token} {next : PUnit → Compose β} (fewer : rest <:+ left)
    (continues : Composes stream depth rest last (next ⟨⟩)) :
    Composes stream depth left last (Compose.continueWith rest >>= next) := by
  have moves : Runs (Draft.IsAt stream depth left) (Compose.continueWith rest)
      (fun _ => Draft.IsAt stream depth rest) (Accounts stream) :=
    Runs.modify fun draft placed =>
      ⟨rfl, placed.faultIs, placed.depthIs, placed.nodes, placed.handles⟩
  refine Runs.bind moves fun _ draft placed => ?_
  refine (continues draft placed).weaken fun ended reached => ?_
  rcases reached with ⟨further, holds, fewest, placed⟩
  exact ⟨further, holds, fewest.trans fewer, placed⟩

theorem skip {next : PUnit → Compose β}
    (continues : Composes stream depth (left.drop 1) last (next ⟨⟩)) :
    Composes stream depth left last (Compose.skip >>= next) := by
  unfold Compose.skip
  rw [bind_assoc]
  refine read fun draft placed => ?_
  rw [placed.tokensAre]
  exact continueWith (List.drop_suffix 1 left) continues

/-- The content of a collection stands one deeper. -/
theorem within {content : Compose α} (shallow : depth ≤ stream.tokens.countP Token.opens)
    (inner : Composes stream (depth + 1) left good content) :
    Composes stream depth left good (Compose.within content) := by
  have down : Runs (Draft.IsAt stream depth left)
      (modify fun draft : Draft => { draft with depth := draft.depth + 1 })
      (fun _ => Draft.IsAt stream (depth + 1) left) (Accounts stream) :=
    Runs.modify fun draft placed =>
      ⟨placed.tokensAre, placed.faultIs, congrArg (· + 1) placed.depthIs, placed.nodes,
        placed.handles⟩
  refine Runs.read fun draft placed => ?_
  refine Runs.ite (fun deep => ?_) fun _ => ?_
  · have many : Compose.greatestDepth ≤ stream.tokens.countP Token.opens :=
      Nat.le_trans deep (placed.depthIs ▸ shallow)
    exact Runs.throw (.inl (.depth many))
  · refine (Runs.bind down fun _ => Runs.bind inner fun result => ?_).strengthen ?_
    · refine Runs.bind (Runs.modify (fun draft reached => ?_)) fun _ =>
        Runs.pure fun _ placed => placed
      rcases reached with ⟨rest, holds, fewer, placed⟩
      exact ⟨rest, holds, fewer, placed.tokensAre, placed.faultIs, congrArg (· - 1) placed.depthIs,
        placed.nodes, placed.handles⟩
    · intro state same
      exact same ▸ placed

end Composes

/-! ## Single steps -/

section

variable {good : α → Prop}

theorem Stays.lift {result : Except Fault α}
    (meets : Meets good (Excuses (IsBlamed stream.tokens)) result) :
    Stays stream depth left good (liftM result) := by
  intro draft placed
  cases result with
  | ok value => exact ⟨meets, placed⟩
  | error fault => exact .inl meets

theorem stays_peek : Stays stream depth left (Shows left) Compose.peek := by
  refine Runs.read fun draft placed => ?_
  have tokensAre := placed.tokensAre
  have faultIs := placed.faultIs
  cases left with
  | cons token rest =>
      simp only [tokensAre]
      exact Runs.pure fun state same => ⟨rfl, same ▸ placed⟩
  | nil =>
      cases ends : stream.fault with
      | some fault =>
          simp only [tokensAre, faultIs, ends]
          exact Runs.throw (.inr ends)
      | none =>
          simp only [tokensAre, faultIs, ends]
          exact Runs.pure fun state same => ⟨rfl, same ▸ placed⟩

theorem stays_add {node : Node} (sound : node.IsSound stream.tokens) :
    Stays stream depth left Anything (Compose.add node) := by
  intro draft placed
  refine ⟨trivial, placed.tokensAre, placed.faultIs, placed.depthIs, ?_, placed.handles⟩
  intro other among
  rcases Array.mem_push.mp among with earlier | rfl
  · exact placed.nodes other earlier
  · exact sound

theorem stays_addEmpty : Stays stream depth left Anything Compose.addEmpty :=
  stays_add .omitted

theorem stays_replace {node : Node} (sound : node.IsSound stream.tokens) (number : Nat) :
    Stays stream depth left Anything (Compose.replace number node) := by
  intro draft placed
  refine ⟨trivial, placed.tokensAre, placed.faultIs, placed.depthIs, ?_, placed.handles⟩
  intro other among
  rcases Array.mem_or_eq_of_mem_setIfInBounds among with earlier | rfl
  · exact placed.nodes other earlier
  · exact sound

theorem stays_anchor (name : Option String) (number : Nat) :
    Stays stream depth left Anything (Compose.anchor name number) := by
  cases name with
  | none => exact Runs.pure fun _ placed => ⟨trivial, placed⟩
  | some name =>
      refine Runs.read fun draft placed => Runs.ite (fun _ => Runs.throw (.inl trivial)) fun _ => ?_
      refine Runs.modify fun state same => ?_
      subst same
      exact ⟨trivial, placed.tokensAre, placed.faultIs, placed.depthIs, placed.nodes,
        placed.handles⟩

theorem stays_aliased (name : String) :
    Stays stream depth left Anything (Compose.aliased name) := by
  refine Runs.read fun draft placed => ?_
  cases draft.anchors.lookup name with
  | none => exact Runs.throw (.inl trivial)
  | some number => exact Runs.pure fun state same => ⟨trivial, same ▸ placed⟩

theorem stays_tagName (handle : Option String) (suffix : String) :
    Stays stream depth left
      (fun name => IsFullName stream.tokens (some (handle, suffix)) (some name))
      (Compose.tagName handle suffix) := by
  cases handle with
  | none =>
      have full : IsFullName stream.tokens (some (none, suffix)) (some ("" ++ suffix)) :=
        .tagged .verbatim
      rw [String.empty_append] at full
      exact Runs.pure fun _ placed => ⟨full, placed⟩
  | some handle =>
      refine Runs.read fun draft placed => ?_
      cases found : draft.handles.lookup handle with
      | none => exact Runs.throw (.inl trivial)
      | some start =>
          rcases List.lookup_eq_some_iff.mp found with ⟨before, after, handlesAre, -⟩
          have stands := placed.handles (handle, start) (by simp [handlesAre])
          exact Runs.pure fun state same => ⟨.tagged stands, same ▸ placed⟩

end

end

end Steward.Yaml
