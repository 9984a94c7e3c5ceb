import LspEndpoint.File.System
import LspEndpoint.Text.Entries

/-!
Finding programs: by a path to one, or by a name that is looked up in some directories in turn.
-/
namespace LspEndpoint.Program

/-- Where programs are looked up when nothing says where. -/
def usualPath : Text := "/bin:/usr/bin"

/-- Where to look for a program, in the order of the search. -/
def candidates (path : Option Text) (name : Text) : List Text :=
  if name.contains File.slash then [name]
  else
    match path with
    | none => []
    | some path => (Text.pieces ':' path).map fun d => if d = [] then name else d ++ [File.slash] ++ name

/-- The program at a path. -/
def programAt (files : File.System) (path : Text) : Except File.Refusal Text := do
  match ← files.find path with
  | .program name => .ok name
  | _ => .error .forbidden

def isAbsent (r : File.Refusal) : Bool := r = .missing || r = .notDirectory

/-- The first program that is found; else the first fault other than that nothing is there. -/
def search (files : File.System) : List Text → Except File.Refusal Text
  | [] => .error .missing
  | path :: rest =>
    match programAt files path with
    | .ok name => .ok name
    | .error r =>
      match rest, search files rest with
      | _, .ok name => .ok name
      | [], _ => .error r
      | _ :: _, .error q => .error (if isAbsent r then q else r)

/-- The path of the first file that could be a program. -/
def pathOf? (files : File.System) (candidates : List Text) : Option Text :=
  candidates.find? fun path => match files.find path with
    | .ok .directory => false
    | .ok _ => true
    | .error _ => false

end LspEndpoint.Program
