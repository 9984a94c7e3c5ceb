import LspEndpoint.Datum.Graph
import LspEndpoint.Yaml.Merge

/-!
The values of nodes. A collection has its cell as soon as it is met, and its parts are looked at later, in
the order in which collections were met; so of several parts without a value, the one met first counts,
and a collection can be a part of itself.
-/
namespace LspEndpoint.Yaml

/-- What is made of the nodes so far: the values of nodes, the cells of collections, and the collections
whose parts are not looked at yet, the last one first. -/
structure Building where
  nodes : Nodes
  values : Array (Option Datum.Ref)
  cells : Array Datum.Cell
  waiting : List (NodeId × Nat)

abbrev Build := StateT Building Parsed

namespace Build

/-- The text of a node that is tagged as a scalar: its own, or the one under its key `=`. -/
def scalarText (nodes : Nodes) : (bound : Nat) → NodeId → Parsed Text
  | 0, _ => .error .endless
  | bound + 1, n =>
    match (nodes[n]?).map Node.content with
    | some (.scalar t) => .ok t
    | some (.mapping entries) =>
      match entries.find? fun e => nodes.tagOf e.1 = .same with
      | some e => scalarText nodes bound e.2
      | none => .error .malformed
    | _ => .error .malformed

/-- The value of a node that is tagged as a scalar. A time must be written as one. -/
def scalarOf (nodes : Nodes) (n : NodeId) (tag : Tag) : Parsed Datum := do
  let t ← scalarText nodes (nodes.size + 1) n
  if tag = .timestamp && (nodes.entriesOf n).isSome then .error .entriesForText
  else scalarValue tag t

/-- The cell that a collection with this tag begins as. -/
def emptyCell? : Tag → Option Datum.Cell
  | .sequence => some (.list [])
  | .orderedMap | .pairs => some (.pairs [])
  | .mapping => some (.map [])
  | .set => some (.set [])
  | _ => none

/-- Where a scalar comes from: the spelled-out word for what is no number is one value everywhere. -/
def origin (nodes : Nodes) (n : NodeId) : Nat :=
  match (nodes[n]?).map Node.content with
  | some (.scalar t) => if isNaNWord t then 0 else n + 1
  | _ => n + 1

/-- The value of a node, of a collection its cell. -/
def value (n : NodeId) : Build Datum.Ref := do
  let b ← get
  match b.values[n]? with
  | some (some r) => return r
  | _ =>
    let tag := b.nodes.tagOf n
    match emptyCell? tag with
    | some cell =>
      let r := Datum.Ref.cell b.cells.size
      set { b with
        values := b.values.setIfInBounds n (some r)
        cells := b.cells.push cell
        waiting := (n, b.cells.size) :: b.waiting }
      return r
    | none =>
      let v ← scalarOf b.nodes n tag
      let r := Datum.Ref.scalar v (origin b.nodes n)
      set { b with values := b.values.setIfInBounds n (some r) }
      return r

/-- The value of a key, which is no collection. -/
def keyValue (n : NodeId) : Build Datum.Ref := do
  match ← value n with
  | .cell _ => throw .malformed
  | r => return r

/-- The entries of a mapping, in the order in which their keys come first. -/
def entries (n : NodeId) : Build (List (Datum.Ref × Datum.Ref)) := do
  let b ← get
  if (b.nodes.entriesOf n).isNone then throw .malformed
  let nodes ← b.nodes.merge n
  set { b with nodes }
  ((nodes.entriesOf n).getD []).foldlM (fun done e => do
    let k ← keyValue e.1
    let v ← value e.2
    return Datum.Ref.insert k v done) []

def items (n : NodeId) : Build (List NodeId) := do
  match ((← get).nodes[n]?).map Node.content with
  | some (.sequence items) => return items
  | _ => throw .malformed

/-- A mapping of one entry. -/
def pair (n : NodeId) : Build (Datum.Ref × Datum.Ref) := do
  match (← get).nodes.entriesOf n with
  | some [(k, v)] => return (← value k, ← value v)
  | _ => throw .malformed

/-- The cell of a collection with the values of its parts. -/
def filled (n : NodeId) : Datum.Cell → Build Datum.Cell
  | .list _ => do return .list (← (← items n).mapM value)
  | .pairs _ => do return .pairs (← (← items n).mapM pair)
  | .map _ => do return .map (← entries n)
  | .set _ => do return .set ((← entries n).map Prod.fst)

/-- Looks at the parts of all collections that wait, and of those that are met then. -/
def fill : (bound : Nat) → Build Unit
  | 0 => pure ()
  | bound + 1 => do
    match (← get).waiting.reverse with
    | [] => pure ()
    | batch =>
      modify fun b => { b with waiting := [] }
      for (n, id) in batch do
        let cell ← filled n ((← get).cells[id]?.getD (.list []))
        modify fun b => { b with cells := b.cells.setIfInBounds id cell }
      fill bound

end Build

/-- The value of a document. -/
def Document.value (d : Document) : Parsed Datum.Graph := do
  let (root, b) ← (do
    let root ← Build.value d.root
    Build.fill (d.nodes.size + 1)
    return root : Build Datum.Ref).run ⟨d.nodes, Array.replicate d.nodes.size none, #[], []⟩
  return ⟨b.cells, root⟩

/-- The value that a text spells; null if it holds nothing. -/
def read (t : Text) : Parsed Datum.Graph := do
  match ← Document.read? t with
  | none => return ⟨#[], .scalar .null 0⟩
  | some d => d.value

end LspEndpoint.Yaml
