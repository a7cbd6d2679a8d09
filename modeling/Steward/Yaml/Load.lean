import Steward.Yaml.Datum
import Steward.Yaml.Merge

/-! The value of a YAML text, as far as settings need it: whether it is absent, a mapping or
something else, and what texts a mapping gives to keys that are texts.

A node's value is built when it is met, but the content of a collection only after everything that
was met before; so of two faults the one nearer to the outermost node is found first. No node is
built twice. -/

namespace Steward.Yaml

inductive Part where
  | datum (datum : Datum)
  | collection
deriving DecidableEq, Repr

/-- The value of a document. The fields of a mapping are in the order in which they are set, with
the text of each value that is one. -/
inductive Loaded where
  | absent
  | mapping (fields : List (Wording × Option Wording))
  | other
deriving DecidableEq, Repr

/-! ## Building -/

/-- A document while its value is built: its nodes as merging has left them, the parts that are
built, and the collections whose content is still to be built, in the order of their turn. -/
structure Building where
  nodes : Array Node
  built : Array (Option Part)
  waiting : List Nat

abbrev Build := StateT Building (Except Fault)

namespace Build

def fail {α : Type} : Build α := throw .malformed

def nodes : Build (Array Node) := return (← get).nodes

/-- The text of a scalar, or of the value that a mapping has under the value key. Only a mapping
that is such a value of itself uses up the bound. -/
def scalarText (nodes : Array Node) : (bound : Nat) → (number : Nat) → Except Fault Wording
  | 0, _ => .error (.value .nesting)
  | bound + 1, number =>
      match nodes[number]? with
      | some (.scalar _ text) => .ok text
      | some (.mapping _ entries) =>
          match entries.find? fun entry => Merge.tagOf nodes entry.1 = .value with
          | some entry => scalarText nodes bound entry.2
          | none => .error .malformed
      | _ => .error .malformed

/-- The value of a node that is no collection. A point in time cannot be written as a mapping. -/
def datum (nodes : Array Node) (number : Nat) : Except Fault Datum := do
  let tag := Merge.tagOf nodes number
  if !tag.isScalar then .error .malformed
  let text ← scalarText nodes (nodes.size + 1) number
  if tag = .timestamp && (nodes[number]?.map Node.isMapping).getD false then
    .error (.value .timestampMapping)
  else Datum.ofScalar tag text

def remember (number : Nat) (part : Part) : Build Unit :=
  modify fun building => { building with built := building.built.setIfInBounds number (some part) }

def part (number : Nat) : Build Part := do
  let building ← get
  match (building.built[number]?).join with
  | some part => return part
  | none =>
      match Merge.tagOf building.nodes number with
      | .sequence | .orderedMapping | .pairs | .mapping | .set =>
          remember number .collection
          modify fun building => { building with waiting := building.waiting ++ [number] }
          return .collection
      | _ =>
          let part := Part.datum (← datum building.nodes number)
          remember number part
          return part

def merged (number : Nat) : Build (List Entry) := do
  let building ← get
  let (entries, nodes) ← (Merge.flatten (Merge.bound building.nodes) number).run building.nodes
  set { building with nodes }
  return entries

def fields : List Entry → Build (List (Part × Part))
  | [] => return []
  | (keyNumber, valueNumber) :: rest => do
      let key ← part keyNumber
      if key = .collection then fail
      let value ← part valueNumber
      return (key, value) :: (← fields rest)

def pairEntries : List Nat → Build Unit
  | [] => return
  | item :: rest => do
      match (← nodes)[item]? with
      | some (.mapping _ [(key, value)]) =>
          let _ ← part key
          let _ ← part value
          pairEntries rest
      | _ => fail

def items : List Nat → Build Unit
  | [] => return
  | item :: rest => do
      let _ ← part item
      items rest

def content (number : Nat) : Build (List (Part × Part)) := do
  let nodes ← nodes
  match Merge.tagOf nodes number, nodes[number]? with
  | .sequence, some (.sequence _ numbers) =>
      items numbers
      return []
  | .orderedMapping, some (.sequence _ numbers)
  | .pairs, some (.sequence _ numbers) =>
      pairEntries numbers
      return []
  | .mapping, some (.mapping _ _)
  | .set, some (.mapping _ _) => fields (← merged number)
  | _, _ => fail

/-- Builds what has been put off, and what that puts off in turn. -/
def finish : (bound : Nat) → Build Unit
  | 0 => return
  | bound + 1 => do
      match (← get).waiting with
      | [] => return
      | number :: rest =>
          modify fun building => { building with waiting := rest }
          let _ ← content number
          finish bound

/-! ## Documents -/

def textOf : Part → Option Wording
  | .datum (.text text) => some text
  | _ => none

def textFields (fields : List (Part × Part)) : List (Wording × Option Wording) :=
  fields.filterMap fun field => (textOf field.1).map fun key => (key, textOf field.2)

def isEmpty (node : Option Node) : Bool :=
  match node with
  | some (.sequence _ items) => items.isEmpty
  | some (.mapping _ entries) => entries.isEmpty
  | _ => false

def document (root : Nat) : Build Loaded := do
  match ← part root with
  | .datum (.text text) => return if text = "" then .absent else .other
  | .datum (.other isAbsent) => return if isAbsent then .absent else .other
  | .collection =>
      modify fun building => { building with waiting := [] }
      let fields ← content root
      let nodes ← nodes
      finish nodes.size
      if isEmpty nodes[root]? then return .absent
      else if Merge.tagOf nodes root = .mapping then return .mapping (textFields fields)
      else return .other

end Build

def Document.load (document : Document) : Except Fault Loaded := do
  let parts := Array.replicate document.nodes.size none
  let (loaded, _) ← (Build.document document.root).run ⟨document.nodes, parts, []⟩
  return loaded

/-- The value of a text; a text without a document is absent. A surrogate is not printable. -/
def load (text : Wording) : Except Fault Loaded :=
  match text.encodable with
  | .error _ => .error .malformed
  | .ok text => do
      match ← Document.ofStream (.ofText text.toList) with
      | some document => document.load
      | none => return .absent

end Steward.Yaml
