import LspEndpoint.Text.CodePoint

/-!
The command that opens a document outside the editor. A configured command is used unless it is empty;
otherwise each platform has one of its own.
-/
namespace LspEndpoint.Command

def platformOpen (platform : Text) : List Text :=
  if platform = "darwin" then ["open"]
  else if platform.startsWith "win" then ["cmd", "/c", "start", ""]
  else ["xdg-open"]

def openWith (platform : Text) (configured : Option (List Text)) : List Text :=
  match configured with
  | some (part :: parts) => part :: parts
  | _ => platformOpen platform

theorem openWith_ne_nil (platform : Text) (configured : Option (List Text)) :
    openWith platform configured ≠ [] := by
  unfold openWith
  split
  · simp
  · unfold platformOpen
    split
    · simp
    · split <;> simp

end LspEndpoint.Command
