import Steward.Yaml.Scanner
import Steward.Yaml.Tag

/-! The nodes of a YAML document. An alias is one more reference to a node, so nodes refer to each
other by number, and a collection may contain itself. -/

namespace Steward.Yaml

abbrev Entry := Nat × Nat

inductive Node where
  | scalar (tag : Tag) (text : Wording)
  | sequence (tag : Tag) (items : List Nat)
  | mapping (tag : Tag) (entries : List Entry)
deriving Repr

namespace Node

def tag : Node → Tag
  | .scalar tag _ => tag
  | .sequence tag _ => tag
  | .mapping tag _ => tag

def withTag (node : Node) (tag : Tag) : Node :=
  match node with
  | .scalar _ text => .scalar tag text
  | .sequence _ items => .sequence tag items
  | .mapping _ entries => .mapping tag entries

def isMapping : Node → Bool
  | .mapping _ _ => true
  | _ => false

def entries : Node → List Entry
  | .mapping _ entries => entries
  | _ => []

end Node

structure Document where
  nodes : Array Node
  root : Nat

/-! ## Drafts -/

/-- A document under way: the tokens still to come, the nodes and anchors so far, what each tag
handle stands for, and the number of collections around the place. -/
structure Draft where
  stream : TokenStream
  nodes : Array Node
  anchors : List (String × Nat)
  handles : List (String × String)
  depth : Nat

abbrev Compose := StateT Draft (Except Fault)

namespace Compose

def fail {α : Type} : Compose α := throw .malformed

/-- The next token. A fault of the stream is met by whoever looks beyond the last token. -/
def peek : Compose Token := do
  let stream := (← get).stream
  match stream.tokens, stream.fault with
  | token :: _, _ => return token
  | [], some fault => throw fault
  | [], none => return .streamEnd

def continueWith (tokens : List Token) : Compose Unit :=
  modify fun draft => { draft with stream := { draft.stream with tokens } }

def skip : Compose Unit := do continueWith ((← get).stream.tokens.drop 1)

def greatestDepth : Nat := 490

def within {α : Type} (content : Compose α) : Compose α := do
  if greatestDepth ≤ (← get).depth then throw (.value .nesting)
  modify fun draft => { draft with depth := draft.depth + 1 }
  let result ← content
  modify fun draft => { draft with depth := draft.depth - 1 }
  return result

def add (node : Node) : Compose Nat :=
  modifyGet fun draft => (draft.nodes.size, { draft with nodes := draft.nodes.push node })

def replace (number : Nat) (node : Node) : Compose Unit :=
  modify fun draft => { draft with nodes := draft.nodes.setIfInBounds number node }

def addEmpty : Compose Nat := add (.scalar .null "")

def anchor (name : Option String) (number : Nat) : Compose Unit := do
  match name with
  | none => return
  | some name =>
      if ((← get).anchors.lookup name).isSome then fail
      modify fun draft => { draft with anchors := (name, number) :: draft.anchors }

def aliased (name : String) : Compose Nat := do
  match (← get).anchors.lookup name with
  | some number => return number
  | none => fail

/-! ## Properties -/

def tagName (handle : Option String) (suffix : String) : Compose String := do
  match handle with
  | none => return suffix
  | some handle =>
      match (← get).handles.lookup handle with
      | some start => return start ++ suffix
      | none => fail

def anchorHere : Compose (Option String) := do
  match ← peek with
  | .anchor name => skip; return some name
  | _ => return none

def tagHere : Compose (Option (Option String × String)) := do
  match ← peek with
  | .tag handle suffix => skip; return some (handle, suffix)
  | _ => return none

/-- An anchor and a tag, in either order. The handle of the tag is looked up last. -/
def properties : Compose (Option String × Option String) := do
  let early ← anchorHere
  match ← tagHere with
  | none => return (early, none)
  | some (handle, suffix) =>
      let name ← if early.isSome then pure early else anchorHere
      return (name, some (← tagName handle suffix))

/-- The tag of a collection; a lone exclamation mark says no more than no tag at all. -/
def collectionTag (name : Option String) (untagged : Tag) : Tag :=
  match name with
  | none => untagged
  | some "!" => untagged
  | some name => .ofName name

/-- The tag of a scalar. One without tag has its tag by its look if it is plain; after a lone
exclamation mark, however it is written. -/
def scalarTag (name : Option String) (isPlain : Bool) (text : Wording) : Tag :=
  match name with
  | none => if isPlain then .ofLook text.shown else .text
  | some "!" => .ofLook text.shown
  | some name => .ofName name

/-! ## Nodes -/

def endsBlockEntry (token : Token) : Bool :=
  token == .key || token == .value || token == .blockEnd

def endsFlowEntry (closing token : Token) : Bool := token == .flowEntry || token == closing

def separator (isFirst : Bool) : Compose Unit := do
  if isFirst then return
  if (← peek) == .flowEntry then skip else fail

mutual
/-- One node. Block collections are allowed within blocks only, and where `indentless` is set a
sequence may stand at the indentation of its key. Each step uses up one of `bound`, and at least
every third step a token. -/
def node : (bound : Nat) → (inBlock indentless : Bool) → Compose Nat
  | 0, _, _ => fail
  | bound + 1, inBlock, indentless => do
      if let .alias name ← peek then
        skip
        return ← aliased name
      let (name, tag) ← properties
      let token ← peek
      if let .scalar isPlain text := token then
        skip
        let number ← add (.scalar (scalarTag tag isPlain text) text)
        anchor name number
        return number
      let sequenceTag := collectionTag tag .sequence
      let mappingTag := collectionTag tag .mapping
      if indentless && token == .blockEntry then
        let number ← add (.sequence sequenceTag [])
        anchor name number
        replace number (.sequence sequenceTag (← within (indentlessItems bound)))
        return number
      else if token == .flowSequenceStart then
        skip
        let number ← add (.sequence sequenceTag [])
        anchor name number
        replace number (.sequence sequenceTag (← within (flowItems bound true)))
        return number
      else if token == .flowMappingStart then
        skip
        let number ← add (.mapping mappingTag [])
        anchor name number
        replace number (.mapping mappingTag (← within (flowEntries bound true)))
        return number
      else if inBlock && token == .blockSequenceStart then
        skip
        let number ← add (.sequence sequenceTag [])
        anchor name number
        replace number (.sequence sequenceTag (← within (blockItems bound)))
        return number
      else if inBlock && token == .blockMappingStart then
        skip
        let number ← add (.mapping mappingTag [])
        anchor name number
        replace number (.mapping mappingTag (← within (blockEntries bound)))
        return number
      else if name.isSome || tag.isSome then
        let number ← add (.scalar (scalarTag tag true "") "")
        anchor name number
        return number
      else fail

def blockItems : (bound : Nat) → Compose (List Nat)
  | 0 => fail
  | bound + 1 => do
      match ← peek with
      | .blockEntry =>
          skip
          let next ← peek
          let item ←
            if next == .blockEntry || next == .blockEnd then addEmpty
            else node bound true false
          return item :: (← blockItems bound)
      | .blockEnd => skip; return []
      | _ => fail

def indentlessItems : (bound : Nat) → Compose (List Nat)
  | 0 => fail
  | bound + 1 => do
      if (← peek) != .blockEntry then return []
      skip
      let next ← peek
      let item ←
        if next == .blockEntry || endsBlockEntry next then addEmpty else node bound true false
      return item :: (← indentlessItems bound)

def blockEntries : (bound : Nat) → Compose (List Entry)
  | 0 => fail
  | bound + 1 => do
      match ← peek with
      | .key =>
          skip
          let key ← if endsBlockEntry (← peek) then addEmpty else node bound true true
          let value ←
            if (← peek) == .value then
              skip
              if endsBlockEntry (← peek) then addEmpty else node bound true true
            else addEmpty
          return (key, value) :: (← blockEntries bound)
      | .blockEnd => skip; return []
      | _ => fail

/-- Items of a flow sequence up to its bracket. An item with a key is a mapping of one entry. -/
def flowItems : (bound : Nat) → (isFirst : Bool) → Compose (List Nat)
  | 0, _ => fail
  | bound + 1, isFirst => do
      if (← peek) == .flowSequenceEnd then
        skip
        return []
      separator isFirst
      match ← peek with
      | .flowSequenceEnd => skip; return []
      | .key =>
          let number ← add (.mapping .mapping [])
          let entry ← within (flowEntry bound .flowSequenceEnd)
          replace number (.mapping .mapping [entry])
          return number :: (← flowItems bound false)
      | _ =>
          let item ← node bound false false
          return item :: (← flowItems bound false)

def flowEntry : (bound : Nat) → (closing : Token) → Compose Entry
  | 0, _ => fail
  | bound + 1, closing => do
      skip
      let next ← peek
      let key ←
        if next == .value || endsFlowEntry closing next then addEmpty
        else node bound false false
      if (← peek) == .value then
        skip
        let value ←
          if endsFlowEntry closing (← peek) then addEmpty else node bound false false
        return (key, value)
      else return (key, ← addEmpty)

def flowEntries : (bound : Nat) → (isFirst : Bool) → Compose (List Entry)
  | 0, _ => fail
  | bound + 1, isFirst => do
      if (← peek) == .flowMappingEnd then
        skip
        return []
      separator isFirst
      match ← peek with
      | .flowMappingEnd => skip; return []
      | .key =>
          let entry ← flowEntry bound .flowMappingEnd
          return entry :: (← flowEntries bound false)
      | _ =>
          let key ← node bound false false
          let value ← addEmpty
          return (key, value) :: (← flowEntries bound false)
end

/-! ## Documents -/

def standardHandles : List (String × String) := [("!", "!"), ("!!", Tag.standardStart)]

/-- The directives in front of a document, and the handles they define. A second version or handle
of one name, and a version other than the first, are refused. -/
def directives : (hasVersion : Bool) → (handles : List (String × String)) → List Token →
    Except Fault (List (String × String) × List Token)
  | hasVersion, handles, .version major :: rest =>
      if hasVersion || major ≠ 1 then .error .malformed else directives true handles rest
  | hasVersion, handles, .handle name start :: rest =>
      if (handles.lookup name).isSome then .error .malformed
      else directives hasVersion ((name, start) :: handles) rest
  | hasVersion, handles, .otherDirective :: rest => directives hasVersion handles rest
  | _, handles, rest => .ok (handles, rest)

def startsDirective : Token → Bool
  | .version _ => true
  | .handle _ _ => true
  | .otherDirective => true
  | _ => false

def documentStart : Compose Unit := do
  let (handles, rest) ← directives false [] (← get).stream.tokens
  continueWith rest
  modify fun draft => { draft with handles := handles ++ standardHandles }
  if (← peek) == .documentStart then skip else fail

def root (bound : Nat) : Compose Nat := do
  let first ← peek
  if startsDirective first || first == .documentStart then
    documentStart
    let next ← peek
    if startsDirective next || next == .documentStart || next == .documentEnd ||
        next == .streamEnd then
      addEmpty
    else node bound true false
  else node bound true false

/-- What may follow a document: marks of its end. Another document is refused as soon as it has
started. -/
def streamEnd : Compose Unit := do
  continueWith ((← get).stream.tokens.dropWhile (· == .documentEnd))
  if (← peek) == .streamEnd then return
  documentStart
  fail

def document (bound : Nat) : Compose (Option Nat) := do
  if (← peek) == .streamEnd then return none
  let number ← root bound
  streamEnd
  return some number

end Compose

def Document.ofStream (stream : TokenStream) : Except Fault (Option Document) := do
  let draft : Draft := ⟨stream, #[], [], Compose.standardHandles, 0⟩
  let (number, draft) ← (Compose.document (3 * stream.tokens.length + 3)).run draft
  return number.map fun number => ⟨draft.nodes, number⟩

end Steward.Yaml
