import LspEndpoint.Json.Value

/-!
Incoming messages. An object with a string method is a request if it has a well-typed id and otherwise
a notification; a non-empty array of objects is a batch of what its items are; all else is invalid.
-/
namespace LspEndpoint.Rpc

/-- A request id is a number or a string. -/
def isId : Json → Bool
  | .int _ | .float _ | .text _ => true
  | _ => false

inductive Message
  | request (id : Json) (method : Text) (params : Json)
  | notification (method : Text) (params : Json)
  | invalid (id : Json)
deriving DecidableEq

inductive Incoming
  | single (message : Message)
  | batch (messages : List Message)
deriving DecidableEq

/-- The id of a message object, null if it has none that is well typed. -/
def idOf (v : Json) : Json :=
  let id := v.get "id"
  if isId id then id else .null

/-- Absent and null params stand for an empty object. -/
def paramsOf (v : Json) : Json :=
  match v.get "params" with
  | .null => .object []
  | params => params

/-- A value as one message; a value that is no object has no method. -/
def Message.ofJson (v : Json) : Message :=
  match v.get "method" with
  | .text method =>
    if isId (v.get "id") then .request (idOf v) method (paramsOf v)
    else .notification method (paramsOf v)
  | _ => .invalid (idOf v)

def isObject : Json → Bool
  | .object _ => true
  | _ => false

def classify : Json → Incoming
  | .array items =>
    if items ≠ [] ∧ items.all isObject then .batch (items.map .ofJson) else .single (.invalid .null)
  | v => .single (.ofJson v)

/-- The messages in the order in which they are handled. -/
def Incoming.toList : Incoming → List Message
  | .single m => [m]
  | .batch ms => ms

theorem toList_classify_batch (items : List Json) (h : items ≠ []) (ho : items.all isObject) :
    (classify (.array items)).toList = items.map Message.ofJson := by
  simp only [classify]
  rw [if_pos ⟨h, ho⟩]
  rfl

end LspEndpoint.Rpc
