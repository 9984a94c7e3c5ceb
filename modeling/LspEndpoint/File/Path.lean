import LspEndpoint.Text.Pieces

/-!
Paths of files. Empty steps and steps to the same place are left out; a step to the parent is kept.
-/
namespace LspEndpoint.File

def slash : CodePoint := '/'

/-- The steps of a path. -/
def steps (path : Text) : List Text :=
  (Text.pieces slash path).filter fun p => p ≠ [] ∧ p ≠ "."

/-- What a path starts from: two slashes are kept, any other number of them counts as one. -/
def root (path : Text) : Text :=
  match (path.takeWhile (· = slash)).length with
  | 0 => []
  | 2 => "//"
  | _ => "/"

/-- The path of steps from a root; no steps lead to the place itself. -/
def path (root : Text) (steps : List Text) : Text :=
  match root ++ Text.joined [slash] steps with
  | [] => "."
  | t => t

/-- The path written without the steps that lead nowhere. -/
def normal (t : Text) : Text := path (root t) (steps t)

/-- The directory that a path leads through last. The root and the place itself are their own parents. -/
def parent (t : Text) : Text := path (root t) (steps t).dropLast

example : normal "./a//b/./../c/" = Text.ofString "a/b/../c" := by decide +kernel

example : parent "a/b" = Text.ofString "a" ∧ parent "b" = Text.ofString "." := by decide +kernel

end LspEndpoint.File
