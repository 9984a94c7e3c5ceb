import LspEndpoint.Yaml.Node

/-!
Mappings that merge others. The entries of what is merged take the place of the entry that merges it, in
front of all others, and stay there: a mapping is merged once, and every alias of it has the entries from
then on. A mapping can merge itself, which then has no entry left that merges.
-/
namespace LspEndpoint.Yaml

abbrev Nodes := Array Node

namespace Nodes

def entriesOf (nodes : Nodes) (n : NodeId) : Option (List (NodeId × NodeId)) :=
  match (nodes[n]?).map Node.content with
  | some (.mapping entries) => some entries
  | _ => none

def tagOf (nodes : Nodes) (n : NodeId) : Tag := ((nodes[n]?).map Node.tag).getD .unknown

def setEntries (nodes : Nodes) (n : NodeId) (entries : List (NodeId × NodeId)) : Nodes :=
  match nodes[n]? with
  | some node => nodes.setIfInBounds n { node with content := .mapping entries }
  | none => nodes

/-- A key that stands for a value of its own is a text among other keys. -/
def asKey (nodes : Nodes) (n : NodeId) : Nodes :=
  match nodes[n]? with
  | some node =>
    if node.tag = .same then nodes.setIfInBounds n { node with tag := .text } else nodes
  | none => nodes

def isMerge (nodes : Nodes) (entry : NodeId × NodeId) : Bool := nodes.tagOf entry.1 = .merge

/-- The first entry that merges, and all others. -/
def takeMerge? (nodes : Nodes) (entries : List (NodeId × NodeId)) :
    Option (NodeId × List (NodeId × NodeId)) :=
  (entries.find? nodes.isMerge).map fun e =>
    (e.2, entries.eraseP nodes.isMerge)

/-- How many entries merge. -/
def mergeCount (nodes : Nodes) : Nat :=
  nodes.foldl (fun n node =>
    match node.content with
    | .mapping entries => n + entries.countP nodes.isMerge
    | _ => n) 0

mutual

/-- Merges what the entries of a mapping merge. `merged` are the entries that this has come to so far. -/
def mergeEntries (nodes : Nodes) (n : NodeId) (merged : List (NodeId × NodeId)) :
    (bound : Nat) → Parsed Nodes
  | 0 => .error .malformed
  | bound + 1 =>
    match nodes.entriesOf n with
    | none => .error .malformed
    | some entries =>
      match nodes.takeMerge? entries with
      | none =>
        let nodes := nodes.setEntries n (merged ++ entries)
        .ok (entries.foldl (fun nodes e => nodes.asKey e.1) nodes)
      | some (source, others) => do
        let (nodes, more) ← sourceEntries (nodes.setEntries n others) source bound
        mergeEntries nodes n (merged ++ more) bound

/-- The entries that merging a node gives: those of a mapping, or of the mappings in a sequence, of which
the first counts and so comes last. -/
def sourceEntries (nodes : Nodes) (source : NodeId) :
    (bound : Nat) → Parsed (Nodes × List (NodeId × NodeId))
  | 0 => .error .malformed
  | bound + 1 =>
    match (nodes[source]?).map Node.content with
    | some (.mapping _) => do
      let nodes ← mergeEntries nodes source [] bound
      return (nodes, (nodes.entriesOf source).getD [])
    | some (.sequence items) =>
      items.foldlM (fun (nodes, more) item => do
        let nodes ← mergeEntries nodes item [] bound
        return (nodes, (nodes.entriesOf item).getD [] ++ more)) (nodes, [])
    | _ => .error .malformed

end

/-- A mapping without entries that merge. -/
def merge (nodes : Nodes) (n : NodeId) : Parsed Nodes :=
  mergeEntries nodes n [] (2 * nodes.mergeCount + 2)

end Nodes

end LspEndpoint.Yaml
