import LspEndpoint.File.System
import LspEndpoint.Text.Native

/-!
Opening a file that is added to. The directories that lead to it are made first.
-/
namespace LspEndpoint.File

inductive OpenError
  | refused (r : Refusal) (path : Text)
  | nulByte
  | unencodable (e : Unencodable)
deriving DecidableEq

def OpenError.message : OpenError → Text
  | refused r path => r.message path
  | nulByte => "embedded null byte"
  | unencodable e => e.message

/-- What keeps a text from being a path. -/
def pathError? (path : Text) : Option OpenError :=
  match path.nonNative? with
  | some e => some (.unencodable e)
  | none => if path.any fun c => c.val = 0 then some .nulByte else none

/-- Makes a directory and those that lead to it, unless they are there. -/
def ensureDirectories (s : System) : (bound : Nat) → (path : Text) → Except OpenError System
  | 0, path => .error (.refused .missing path)
  | bound + 1, path =>
    match s.ensureDirectory path.octets with
    | .ok s => .ok s
    | .error .missing =>
      if parent path = path then .error (.refused .missing path)
      else do
        let s ← ensureDirectories s bound (parent path)
        (s.ensureDirectory path.octets).mapError (.refused · path)
    | .error r => .error (.refused r path)

/-- Opens a file that is added to, and gives the system that has it. -/
def openToAdd (s : System) (path : Text) : Except OpenError (System × Place) := do
  let path := normal path
  match pathError? path with
  | some e => throw e
  | none =>
    let s ← ensureDirectories s (path.length + 1) (parent path)
    (s.create path.octets false).mapError (.refused · path)

end LspEndpoint.File
