import LspEndpoint.Fault
import LspEndpoint.Params.Decode
import LspEndpoint.Uri.Path

/-!
Executing a command: the params name one document, and the program to run is the open command with the
path of that document as its last argument.
-/
namespace LspEndpoint.Command

/-- Why there is nothing to run: the params are refused, or their URI cannot be split. -/
inductive Error
  | refused (e : Params.Error)
  | faulty (f : Fault)
deriving DecidableEq

def ofPathError : Uri.PathError → Error
  | .malformed e => .faulty (.uri e)
  | .rejected e => .refused e

/-- The path of the one document that the params name. -/
def path (params : Json) : Except Error Text :=
  match Params.executeCommand params with
  | .error e => .error (.refused e)
  | .ok p =>
    match Uri.toPath p.uri with
    | .error e => .error (ofPathError e)
    | .ok path => .ok path

def argv (openCommand : List Text) (path : Text) : List Text := openCommand ++ [path]

/-- The result that holds what the program printed. -/
def result (output : Json) : Json := .record [("result", output)]

end LspEndpoint.Command
