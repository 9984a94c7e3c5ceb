import LspEndpoint.Json.Value
import LspEndpoint.Rpc.Response
import LspEndpoint.Text.Utf8
import LspEndpoint.Time

/-!
Values of settings. They are richer than documents: keys of a map can be anything that is no
collection, and there are dates, byte strings and sets. Every document is such a value, and a value
is a document if all its parts are.
-/
namespace LspEndpoint

inductive Datum
  | null
  | bool (b : Bool)
  | int (n : Int)
  | float (x : Binary64)
  | text (t : Text)
  | bytes (b : Bytes)
  | date (d : Date)
  | moment (m : Moment)
  | list (items : List Datum)
  | tuple (items : List Datum)
  | map (entries : List (Datum × Datum))
  | set (members : List Datum)
  | cycle (isMap : Bool)

namespace Datum

instance : Inhabited Datum := ⟨.null⟩

/-- The name that messages call the kind of a value by. -/
def kind : Datum → String
  | .null => "NoneType"
  | .bool _ => "bool"
  | .int _ => "int"
  | .float _ => "float"
  | .text _ => "str"
  | .bytes _ => "bytes"
  | .date _ => "date"
  | .moment _ => "datetime"
  | .list _ => "list"
  | .tuple _ => "tuple"
  | .map _ => "dict"
  | .set _ => "set"
  | .cycle isMap => if isMap then "dict" else "list"

/-- The kind with the name of the library that it comes from. -/
def qualifiedKind : Datum → String
  | .date _ => "datetime.date"
  | .moment _ => "datetime.datetime"
  | v => v.kind

/-- What counts as absent where a default may stand in: null, false, zero and all that is empty. -/
def isEmpty : Datum → Bool
  | .null => true
  | .bool b => !b
  | .int n => n == 0
  | .float x => x.isZero
  | .text t => t.isEmpty
  | .bytes b => b.isEmpty
  | .list items | .tuple items | .set items => items.isEmpty
  | .map entries => entries.isEmpty
  | .date _ | .moment _ | .cycle _ => false

/-- A whole number, of any kind that holds one. -/
def integral? : Datum → Option Int
  | .bool b => some (if b then 1 else 0)
  | .int n => some n
  | .float x =>
    match x.truncate? with
    | some n => if x.isZero || Binary64.ofInt n == x then some n else none
    | none => none
  | _ => none

/-- Whether two keys are one and the same; numbers are compared across their kinds. -/
def sameKey (a b : Datum) : Bool :=
  match a, b with
  | .null, .null => true
  | .text s, .text t => s == t
  | .bytes s, .bytes t => s == t
  | .date s, .date t => s == t
  | .moment s, .moment t => s.isSame t
  | .float s, .float t => s == t || (s.isZero && t.isZero)
  | _, _ =>
    match a.integral?, b.integral? with
    | some m, some n => m == n
    | _, _ => false

/-- Puts a value under a key; a key that is there keeps its place and its first form. -/
def insert (key value : Datum) : List (Datum × Datum) → List (Datum × Datum)
  | [] => [(key, value)]
  | (k, v) :: rest => if k.sameKey key then (k, value) :: rest else (k, v) :: insert key value rest

/-- The value under a text key. -/
def lookup? (key : Text) (entries : List (Datum × Datum)) : Option Datum :=
  (entries.find? fun e => e.1.sameKey (.text key)).map Prod.snd

mutual

def ofJson : Json → Datum
  | .null => .null
  | .bool b => .bool b
  | .int n => .int n
  | .float x => .float x
  | .text t => .text t
  | .array items => .list (ofItems items)
  | .object members => .map (ofMembers members)

def ofItems : List Json → List Datum
  | [] => []
  | v :: rest => ofJson v :: ofItems rest

def ofMembers : List (Text × Json) → List (Datum × Datum)
  | [] => []
  | (k, v) :: rest => (.text k, ofJson v) :: ofMembers rest

end

/-- How numbers that are none are spelled among settings. -/
def floatWords : FloatWords := ⟨"nan", "inf"⟩

/-- A key of a document; keys that are numbers, truth values or null become text. -/
def keyText : Datum → Except Unwritable Text
  | .text t => .ok t
  | .int n => if Integer.isShown n then .ok (Text.ofInt n) else .error .tooManyDigits
  | .bool b => .ok (if b then "true" else "false")
  | .null => .ok "null"
  | .float x => .ok (x.text Json.floatWords)
  | v => .error (.key v.qualifiedKind)

mutual

/-- The document that the value is, or the first part of it that no document can hold. -/
def toJson : Datum → Except Unwritable Json
  | .null => .ok .null
  | .bool b => .ok (.bool b)
  | .int n => if Integer.isShown n then .ok (.int n) else .error .tooManyDigits
  | .float x => .ok (.float x)
  | .text t => .ok (.text t)
  | .list items | .tuple items => (toItems items).map .array
  | .map entries => (toMembers entries).map .object
  | .bytes b => .error (.value (Datum.bytes b).kind)
  | .date d => .error (.value (Datum.date d).kind)
  | .moment m => .error (.value (Datum.moment m).kind)
  | .set members => .error (.value (Datum.set members).kind)
  | .cycle _ => .error .cycle

def toItems : List Datum → Except Unwritable (List Json)
  | [] => .ok []
  | v :: rest =>
    match toJson v with
    | .error e => .error e
    | .ok v' => (toItems rest).map (v' :: ·)

def toMembers : List (Datum × Datum) → Except Unwritable (List (Text × Json))
  | [] => .ok []
  | (k, v) :: rest =>
    match keyText k with
    | .error e => .error e
    | .ok key =>
      match toJson v with
      | .error e => .error e
      | .ok v' => (toMembers rest).map ((key, v') :: ·)

end

end Datum

end LspEndpoint
