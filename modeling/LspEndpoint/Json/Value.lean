import LspEndpoint.Number.Binary64
import LspEndpoint.Text.Entries

/-!
Decoded documents. Integers are unbounded and stay apart from doubles, members keep their order, and
a text may hold lone surrogates.
-/
namespace LspEndpoint

inductive Json
  | null
  | bool (b : Bool)
  | int (n : Int)
  | float (x : Binary64)
  | text (t : Text)
  | array (items : List Json)
  | object (members : List (Text × Json))

namespace Json

instance : Inhabited Json := ⟨.null⟩

abbrev Members := Entries Json

mutual

def decEq (a b : Json) : Decidable (a = b) :=
  match a with
  | .null => match b with
    | .null => isTrue rfl
    | .bool _ | .int _ | .float _ | .text _ | .array _ | .object _ => isFalse (by intro h; cases h)
  | .bool x => match b with
    | .bool y => if h : x = y then isTrue (h ▸ rfl) else isFalse (by intro e; cases e; exact h rfl)
    | .null | .int _ | .float _ | .text _ | .array _ | .object _ => isFalse (by intro h; cases h)
  | .int x => match b with
    | .int y => if h : x = y then isTrue (h ▸ rfl) else isFalse (by intro e; cases e; exact h rfl)
    | .null | .bool _ | .float _ | .text _ | .array _ | .object _ => isFalse (by intro h; cases h)
  | .float x => match b with
    | .float y => if h : x = y then isTrue (h ▸ rfl) else isFalse (by intro e; cases e; exact h rfl)
    | .null | .bool _ | .int _ | .text _ | .array _ | .object _ => isFalse (by intro h; cases h)
  | .text x => match b with
    | .text y => if h : x = y then isTrue (h ▸ rfl) else isFalse (by intro e; cases e; exact h rfl)
    | .null | .bool _ | .int _ | .float _ | .array _ | .object _ => isFalse (by intro h; cases h)
  | .array x => match b with
    | .array y => match decEqItems x y with
      | isTrue h => isTrue (h ▸ rfl)
      | isFalse h => isFalse (by intro e; cases e; exact h rfl)
    | .null | .bool _ | .int _ | .float _ | .text _ | .object _ => isFalse (by intro h; cases h)
  | .object x => match b with
    | .object y => match decEqMembers x y with
      | isTrue h => isTrue (h ▸ rfl)
      | isFalse h => isFalse (by intro e; cases e; exact h rfl)
    | .null | .bool _ | .int _ | .float _ | .text _ | .array _ => isFalse (by intro h; cases h)

def decEqItems (a b : List Json) : Decidable (a = b) :=
  match a with
  | [] => match b with
    | [] => isTrue rfl
    | _ :: _ => isFalse (by intro h; cases h)
  | x :: xs => match b with
    | [] => isFalse (by intro h; cases h)
    | y :: ys => match decEq x y, decEqItems xs ys with
      | isTrue h, isTrue g => isTrue (h ▸ g ▸ rfl)
      | isFalse h, _ => isFalse (by intro e; cases e; exact h rfl)
      | _, isFalse h => isFalse (by intro e; cases e; exact h rfl)

def decEqMembers (a b : List (Text × Json)) : Decidable (a = b) :=
  match a with
  | [] => match b with
    | [] => isTrue rfl
    | _ :: _ => isFalse (by intro h; cases h)
  | (k, x) :: xs => match b with
    | [] => isFalse (by intro h; cases h)
    | (l, y) :: ys =>
      if hk : k = l then
        match decEq x y, decEqMembers xs ys with
        | isTrue h, isTrue g => isTrue (hk ▸ h ▸ g ▸ rfl)
        | isFalse h, _ => isFalse (by intro e; cases e; exact h rfl)
        | _, isFalse h => isFalse (by intro e; cases e; exact h rfl)
      else isFalse (by intro e; cases e; exact hk rfl)

end

instance : DecidableEq Json := decEq

/-- The value of a key, if the value is an object that has it. -/
def get? (v : Json) (key : Text) : Option Json :=
  match v with
  | .object members => members.lookup key
  | _ => none

/-- The value of a key, null if there is none. -/
def get (v : Json) (key : Text) : Json := (v.get? key).getD .null

def has (v : Json) (key : Text) : Bool := (v.get? key).isSome

theorem get_object (members : Members) (key : Text) :
    (Json.object members).get key = (members.lookup key).getD .null := rfl

/-- An object written out in the library's own words. -/
def record (members : List (String × Json)) : Json :=
  .object (members.map fun m => (Text.ofString m.1, m.2))

def string (s : String) : Json := .text s

end Json

end LspEndpoint
