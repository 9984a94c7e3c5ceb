import LspEndpoint.Datum.Basic
import LspEndpoint.Datum.Order

/-!
Values of settings whose parts are shared. A collection is a numbered cell, and may be a part of itself;
seen from outside, such a value goes on until a collection shows inside itself, where it is cut.
-/
namespace LspEndpoint.Datum

/-- A part of a value: one that has no parts, with a number for where it came from, or a cell. -/
inductive Ref
  | scalar (v : Datum) (origin : Nat)
  | cell (id : Nat)

inductive Cell
  | list (items : List Ref)
  | pairs (items : List (Ref × Ref))
  | map (entries : List (Ref × Ref))
  | set (members : List Ref)

structure Graph where
  cells : Array Cell
  root : Ref

namespace Ref

/-- Whether two keys are one and the same. What is no number equals only itself. -/
def isSameKey : Ref → Ref → Bool
  | .scalar (.float .nan) m, .scalar (.float .nan) n => m == n
  | .scalar v _, .scalar w _ => v.sameKey w
  | _, _ => false

/-- Puts a value under a key; a key that is there keeps its place and its first form. -/
def insert (key value : Ref) : List (Ref × Ref) → List (Ref × Ref)
  | [] => [(key, value)]
  | (k, v) :: rest =>
    if k.isSameKey key then (k, value) :: rest else (k, v) :: insert key value rest

end Ref

namespace Cell

def isMap : Cell → Bool
  | .map _ => true
  | _ => false

/-- The value with these parts in the places of its own. -/
def toDatum (c : Cell) (parts : List Datum) : Datum :=
  match c with
  | .list _ => .list parts
  | .pairs _ => .list (tuples parts)
  | .map _ => .map (entries parts)
  | .set _ => .set (setOrder parts)
where
  entries : List Datum → List (Datum × Datum)
    | k :: v :: rest => (k, v) :: entries rest
    | _ => []
  tuples (parts : List Datum) : List Datum := (entries parts).map fun e => .tuple [e.1, e.2]

/-- The parts in order. -/
def parts : Cell → List Ref
  | .list items | .set items => items
  | .pairs entries | .map entries => entries.flatMap fun e => [e.1, e.2]

end Cell

namespace Graph

/-- The values of cells that are the same wherever they stand. -/
abbrev Known := Array (Option Datum)

/-- The value of a part inside the cells of a path, and whether it was cut. What was not cut anywhere is
kept, as it is the same wherever it stands. -/
def unfoldFrom (g : Graph) : (bound : Nat) → (path : List Nat) → Ref → StateM Known (Datum × Bool)
  | _, _, .scalar v _ => return (v, false)
  | 0, _, .cell _ => return (.cycle false, true)
  | bound + 1, path, .cell id => do
    match (← get)[id]?, g.cells[id]? with
    | some (some v), _ => return (v, false)
    | _, none => return (.null, false)
    | _, some c =>
      if path.contains id then return (.cycle c.isMap, true)
      else
        let parts ← c.parts.mapM (g.unfoldFrom bound (id :: path))
        let v := c.toDatum (parts.map Prod.fst)
        if parts.any Prod.snd then return (v, true)
        else
          modify fun known => known.setIfInBounds id (some v)
          return (v, false)

/-- The value of a part as it is seen from outside. -/
def unfold (g : Graph) (r : Ref) : Datum :=
  ((g.unfoldFrom (g.cells.size + 1) [] r).run (Array.replicate g.cells.size none)).1.1

/-- The entries of a part that is a map. -/
def entries? (g : Graph) : Ref → Option (List (Ref × Ref))
  | .scalar _ _ => none
  | .cell id =>
    match g.cells[id]? with
    | some (.map entries) => some entries
    | _ => none

/-- The part under a text key. -/
def lookup? (key : Text) (entries : List (Ref × Ref)) : Option Ref :=
  (entries.find? fun e => e.1.isSameKey (.scalar (.text key) 0)).map Prod.snd

end Graph

end LspEndpoint.Datum
