import LspEndpoint.Json.Value

/-!
Params without their long texts. A text longer than the limit becomes its length; the shape of the
value, its keys and everything short stay as they are. What is nested is walked over level by level, and the stack
bounds how many levels there may be.
-/
namespace LspEndpoint

/-- What stands for a text of that length. -/
def lengthMark (length : Nat) : Text := "[" ++ Text.ofNat length ++ " chars]"

def Text.elided (limit : Int) (t : Text) : Text :=
  if (t.length : Int) ≤ limit then t else lengthMark t.length

namespace Json

mutual

/-- How deep lists and objects stand in each other. -/
def depth : Json → Nat
  | .array items => depthItems items + 1
  | .object members => depthMembers members + 1
  | _ => 0

def depthItems : List Json → Nat
  | [] => 0
  | v :: rest => max (depth v) (depthItems rest)

def depthMembers : List (Text × Json) → Nat
  | [] => 0
  | (_, v) :: rest => max (depth v) (depthMembers rest)

end

mutual

def elided (limit : Int) : Json → Json
  | .text t => .text (t.elided limit)
  | .array items => .array (elidedItems limit items)
  | .object members => .object (elidedMembers limit members)
  | v => v

def elidedItems (limit : Int) : List Json → List Json
  | [] => []
  | v :: rest => elided limit v :: elidedItems limit rest

def elidedMembers (limit : Int) : List (Text × Json) → List (Text × Json)
  | [] => []
  | (k, v) :: rest => (k, elided limit v) :: elidedMembers limit rest

end

theorem elidedItems_eq_map (limit : Int) (items : List Json) :
    elidedItems limit items = items.map (elided limit) := by
  induction items with
  | nil => rfl
  | cons v rest ih => simp [elidedItems, ih]

theorem elidedMembers_eq_map (limit : Int) (members : List (Text × Json)) :
    elidedMembers limit members = members.map fun m => (m.1, elided limit m.2) := by
  induction members with
  | nil => rfl
  | cons m rest ih => simp [elidedMembers, ih]

end Json

end LspEndpoint
