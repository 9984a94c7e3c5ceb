import LspEndpoint.File.Path
import LspEndpoint.File.Refusal

/-!
A tree of files. A place is the list of steps that lead to it from the root; what a path leads to is found
step by step, through directories and links only. Names and contents are octets, held as code points below
256.
-/
namespace LspEndpoint.File

inductive Device
  | null
  | zero
  | full
  | terminal
deriving DecidableEq

abbrev Place := List Text

inductive Entry
  | directory
  | file (content : Text)
  | program (name : Text)
  | device (d : Device)
  | link (target : Place)
deriving DecidableEq

/-- Whether there is no end to what an entry holds. -/
def Entry.isEndless : Entry → Bool
  | .device .zero | .device .full => true
  | _ => false

/-- What stands where, the latest first, and the directory that paths start from. -/
structure System where
  entries : List (Place × Entry)
  here : Place

namespace System

def get? (s : System) (place : Place) : Option Entry :=
  if place = [] then some .directory else s.entries.lookup place

/-- Puts an entry at a place, or takes away what is there. -/
def put (s : System) (place : Place) (e : Option Entry) : System :=
  let others := s.entries.filter fun x => x.1 ≠ place
  { s with entries := e.toList.map (place, ·) ++ others }

@[simp] theorem get?_put (s : System) {place : Place} (e : Option Entry) (h : place ≠ []) :
    (s.put place e).get? place = e := by
  have hf : List.lookup place (s.entries.filter fun x => x.1 ≠ place) = none := by
    rw [List.lookup_eq_none_iff]
    intro x hx
    have := (List.mem_filter.1 hx).2
    grind
  cases e with
  | none => simpa only [get?, put, if_neg h, Option.toList, List.map_nil, List.nil_append] using hf
  | some e => simp [get?, put, h]

/-- The longest name of a file. -/
def maxName : Nat := 255

/-- The longest path, the octet at its end counted. -/
def maxPath : Nat := 4096

/-- Follows steps from a place. All places that are passed must be directories; the last one may be
vacant. -/
def walk (s : System) : (bound : Nat) → Place → List Text → Except Refusal Place
  | 0, _, _ => .error .tooManyLinks
  | _, place, [] => .ok place
  | bound + 1, place, step :: rest =>
    match s.get? place with
    | none => .error .missing
    | some .directory =>
      if step = [] ∨ step = "." then walk s bound place rest
      else if step = ".." then walk s bound place.dropLast rest
      else if maxName < step.length then .error .nameTooLong
      else
        match s.get? (place ++ [step]) with
        | some (.link target) => walk s bound [] (target ++ rest)
        | _ => walk s bound (place ++ [step]) rest
    | some _ => .error .notDirectory

/-- The place that a path leads to. A slash at its end leads only to directories. -/
def locate (s : System) (path : Text) : Except Refusal Place :=
  if path = [] then .error .missing
  else if maxPath ≤ path.length then .error .nameTooLong
  else
    let steps := Text.pieces slash path
    s.walk (steps.length + 40) (if root path = [] then s.here else []) steps

/-- The place that a path leads to when a link at its end is not followed. -/
def locateLast (s : System) (path : Text) : Except Refusal Place := do
  match (steps path).getLast? with
  | none => s.locate path
  | some name =>
    let before := path.take (path.length - name.length)
    if path.getLast? = some slash then s.locate path
    else return (← if before = [] then .ok s.here else s.locate before) ++ [name]

/-- What stands at the end of a path. -/
def find (s : System) (path : Text) : Except Refusal Entry := do
  match s.get? (← s.locate path) with
  | some e => .ok e
  | none => .error .missing

def isDirectory (s : System) (path : Text) : Bool :=
  match s.find path with
  | .ok .directory => true
  | _ => false

/-- The names in a directory, in order. -/
def names (s : System) (place : Place) : List Text :=
  (s.entries.filterMap fun x => if x.1.dropLast = place then x.1.getLast? else none).mergeSort Text.le

/-- What an entry holds when it is read; of what has no end, as much as is ever looked at. -/
def contents : Entry → Except Refusal Text
  | .device .zero | .device .full => .ok (List.replicate 65536 (CodePoint.ofNat 0))
  | .directory => .error .isDirectory
  | .device .terminal => .error .noDevice
  | .file content => .ok content
  | _ => .ok []

def read (s : System) (path : Text) : Except Refusal Text := do contents (← s.find path)

/-- Opens a path to write to it; a file is made if there is none, and emptied if wanted. -/
def create (s : System) (path : Text) (empties : Bool) : Except Refusal (System × Place) := do
  if path.getLast? = some slash then
    match (path.reverse.dropWhile (· = slash)).reverse with
    | [] => throw .isDirectory
    | kept =>
      discard (s.locate kept)
      throw .isDirectory
  let place ← s.locate path
  match s.get? place with
  | none => return (s.put place (some (.file [])), place)
  | some .directory => throw .isDirectory
  | some (.device .terminal) => throw .noDevice
  | some (.file _) => return (if empties then s.put place (some (.file [])) else s, place)
  | some _ => return (s, place)

/-- Writes at an offset of a file, or at its end; devices take nothing, and a full one refuses. -/
def write (s : System) (place : Place) (offset : Option Nat) (t : Text) : Except Refusal System :=
  match s.get? place with
  | some (.file content) =>
    let offset := offset.getD content.length
    let gap := List.replicate (offset - content.length) (CodePoint.ofNat 0)
    let before := (content ++ gap).take offset
    .ok (s.put place (some (.file (before ++ t ++ content.drop (offset + t.length)))))
  | some (.device .full) => if t = [] then .ok s else .error .noSpace
  | _ => .ok s

def makeDirectory (s : System) (path : Text) : Except Refusal System := do
  let place ← s.locate path
  match s.get? place with
  | some _ => .error .present
  | none => .ok (s.put place (some .directory))

/-- Makes a directory unless there is one. -/
def ensureDirectory (s : System) (path : Text) : Except Refusal System :=
  match s.makeDirectory path with
  | .ok s => .ok s
  | .error .missing => .error .missing
  | .error r =>
    match s.find path with
    | .ok .directory => .ok s
    | .ok _ => .error r
    | .error q => .error (if q.isAbsence then r else q)

end System

end LspEndpoint.File
