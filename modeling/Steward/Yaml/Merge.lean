import Steward.Yaml.Node

/-! Merge keys: the entries of the mappings that they name come in front of a mapping's own entries,
so that its own count. Nodes change for good: a mapping is merged once, and whoever refers to it
later finds the entries of others among its own. -/

namespace Steward.Yaml

abbrev Merge := StateT (Array Node) (Except Fault)

namespace Merge

def fail {α : Type} : Merge α := throw .malformed

def tagOf (nodes : Array Node) (number : Nat) : Tag := (nodes[number]?.map Node.tag).getD .other

def entriesOf (nodes : Array Node) (number : Nat) : List Entry :=
  (nodes[number]?.map Node.entries).getD []

def setTag (nodes : Array Node) (number : Nat) (tag : Tag) : Array Node :=
  nodes.modify number (·.withTag tag)

def setEntries (nodes : Array Node) (number : Nat) (entries : List Entry) : Array Node :=
  nodes.modify number fun node => .mapping node.tag entries

def isMergeKey (nodes : Array Node) (entry : Entry) : Bool := tagOf nodes entry.1 == .merge

/-- Takes the first merge key out of a mapping, and gives what it names. -/
def takeSource (number : Nat) : Merge (Option Nat) := do
  let nodes ← get
  let entries := entriesOf nodes number
  let own := entries.takeWhile (!isMergeKey nodes ·)
  match entries.drop own.length with
  | [] => return none
  | (_, source) :: rest =>
      set (setEntries nodes number (own ++ rest))
      return some source

def mappings (source : Nat) : Merge (List Nat) := do
  let nodes ← get
  match nodes[source]? with
  | some (.mapping _ _) => return [source]
  | some (.sequence _ items) =>
      if items.all fun item => (nodes[item]?.map Node.isMapping).getD false then return items
      else fail
  | _ => fail

/-- The value key is a text in a mapping, and it is one from then on. -/
def settleKeys (nodes : Array Node) (entries : List Entry) : Array Node :=
  entries.foldl (fun nodes entry =>
    if tagOf nodes entry.1 = .value then setTag nodes entry.1 .text else nodes) nodes

def putInFront (number : Nat) (entries : List Entry) : Merge (List Entry) := do
  let nodes ← get
  let all := entries ++ entriesOf nodes number
  set (settleKeys (setEntries nodes number all) all)
  return all

/-- The entries that the merge keys of a mapping bring. Of several mappings in one list the first
counts most, so it comes last. Each step takes a merge key away for good, wherever it leads;
`bound` is more than there are. -/
def brought : (bound : Nat) → (number : Nat) → Merge (List Entry)
  | 0, _ => return []
  | bound + 1, number => do
      match ← takeSource number with
      | none => return []
      | some source =>
          let lists ← (← mappings source).mapM fun mapping => do
            putInFront mapping (← brought bound mapping)
          return lists.reverse.flatten ++ (← brought bound number)

def bound (nodes : Array Node) : Nat :=
  nodes.foldl (fun count node => count + node.entries.countP (isMergeKey nodes)) 1

def flatten (bound number : Nat) : Merge (List Entry) := do
  putInFront number (← brought bound number)

end Merge

end Steward.Yaml
