import LspEndpoint.Text.Entries
import LspEndpoint.Text.Native
import LspEndpoint.Text.Pieces

/-!
References to variables of the environment. A reference is a name between `${` and `}`; it is
replaced by the value, which is not looked into again. The home directory has a value even when no
variable gives it, and a name that has none stays as it is written.
-/
namespace LspEndpoint

structure Environment where
  bindings : Entries Text
  home : Text

namespace Environment

/-- The home directory without slashes at its end, or the root if nothing is left. -/
def homeDirectory (e : Environment) : Text :=
  match (e.home.reverse.dropWhile (· = CodePoint.ofChar '/')).reverse with
  | [] => "/"
  | t => t

/-- The value of a variable. Names are one and the same if their native forms are. -/
def get? (e : Environment) (name : Text) : Option Text :=
  (e.bindings.find? fun b => b.1.native == name.native).map Prod.snd

def value? (e : Environment) (name : Text) : Option Text :=
  match e.get? name with
  | some v => some v
  | none => if name = "HOME" then some e.homeDirectory else none

def reference (name : Text) : Text := "$\x7b" ++ name ++ "\x7d"

/-- What a reference is replaced by. -/
def resolve (e : Environment) (name : Text) : Text := (e.value? name).getD (reference name)

/-- The name in a reference at the start of the text. -/
def name? : Text → Option Text
  | a :: b :: t =>
    if a = '$' ∧ b = '{' then
      match Text.before '}' t, Text.after? '}' t with
      | c :: name, some _ => some (c :: name)
      | _, _ => none
    else none
  | _ => none

/-- The names that a text refers to. -/
def names : Text → List Text
  | [] => []
  | c :: t => (name? (c :: t)).toList ++ names t

/-- Expands what follows `skip` characters that belong to a reference already expanded. -/
def expandFrom (e : Environment) : (skip : Nat) → Text → Except Unencodable Text
  | _, [] => .ok []
  | skip + 1, _ :: t => expandFrom e skip t
  | 0, c :: t =>
    match name? (c :: t) with
    | none => (expandFrom e 0 t).map (c :: ·)
    | some name =>
      match name.nonNative? with
      | some failure => .error failure
      | none => (expandFrom e (name.length + 2) t).map (e.resolve name ++ ·)

/-- The text with every reference replaced, in one pass from left to right. -/
def expand (e : Environment) (t : Text) : Except Unencodable Text := e.expandFrom 0 t

end Environment

end LspEndpoint
