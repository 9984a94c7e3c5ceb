import LspEndpoint.Program.Basic

/-!
Options of programs: letters behind one dash, of which several may stand together, and names behind two.
Some take a value, which follows at once or as the next argument. They may stand anywhere in front of a
separator, or, where a program wants it so, only in front of its first operand.
-/
namespace LspEndpoint.Program

/-- Whether an option takes a value. -/
inductive Taking
  | nothing
  | value
  | maybeValue
deriving DecidableEq

/-- The options that a program knows, by letter and by name. A name may stand for a letter. -/
structure Known where
  letters : List (Char × Taking)
  names : List (String × Char × Taking)
  inFront : Bool

/-- The options that were given, in order, and the other arguments. -/
structure Given where
  options : List (Char × Option Text)
  operands : List Text

namespace Given

def has (g : Given) (c : Char) : Bool := g.options.any fun o => o.1 = c

/-- The value of an option, the last one if it was given more than once. -/
def value? (g : Given) (c : Char) : Option Text :=
  (g.options.reverse.find? fun o => o.1 = c).bind Prod.snd

def option (o : Char × Option Text) (g : Given) : Given := { g with options := o :: g.options }

def operand (t : Text) (g : Given) : Given := { g with operands := t :: g.operands }

end Given

namespace Known

/-- The options in a text behind one dash, and whether the last of them wants the next argument. -/
def letterOptions (k : Known) : Text → Except Text (List (Char × Option Text) × Option Char)
  | [] => .ok ([], none)
  | c :: t =>
    match k.letters.find? fun l => CodePoint.ofChar l.1 = c with
    | none => .error ("invalid option -- '" ++ [c] ++ "'")
    | some (l, .nothing) => (letterOptions k t).map fun r => ((l, none) :: r.1, r.2)
    | some (l, .maybeValue) => .ok ([(l, if t = [] then none else some t)], none)
    | some (l, .value) => if t = [] then .ok ([], some l) else .ok ([(l, some t)], none)

/-- The names that one may be short for. -/
def matching (k : Known) (name : Text) : List (String × Char × Taking) :=
  match k.names.find? fun n => Text.ofString n.1 = name with
  | some n => [n]
  | none => k.names.filter fun n => name.isPrefixOf (Text.ofString n.1)

/-- The option of a name with what may follow it behind an equals sign, and whether it wants the next
argument. -/
def nameOption (k : Known) (t : Text) : Except Text ((Char × Option Text) × Option Text) :=
  let name := Text.before '=' t
  let value := Text.after? '=' t
  match k.matching name with
  | [(full, l, taking)] =>
    let shown : Text := "'--" ++ Text.ofString full ++ "'"
    match taking, value with
    | .nothing, some _ => .error ("option " ++ shown ++ " doesn't allow an argument")
    | .value, none => .ok ((l, none), some ("option " ++ shown ++ " requires an argument"))
    | _, value => .ok ((l, value), none)
  | [] => .error ("unrecognized option '--" ++ name ++ "'")
  | several =>
    let names : Text := several.flatMap fun n => Text.ofString (" '--" ++ n.1 ++ "'")
    .error ("option '--" ++ name ++ "' is ambiguous; possibilities:" ++ names)

/-- The options and operands in some arguments. -/
def read (k : Known) : List Text → Except Text Given
  | [] => .ok ⟨[], []⟩
  | a :: rest =>
    if a = "--" then .ok ⟨[], rest⟩
    else if a.startsWith "--" then do
      match ← k.nameOption (a.drop 2), rest with
      | (o, none), rest => return (← k.read rest).option o
      | ((l, _), some _), value :: rest => return (← k.read rest).option (l, some value)
      | (_, some missing), [] => throw missing
    else if a.startsWith "-" && a.length > 1 then do
      match ← k.letterOptions a.tail, rest with
      | (os, none), rest => return os.foldr Given.option (← k.read rest)
      | (os, some l), value :: rest => return os.foldr Given.option ((← k.read rest).option (l, some value))
      | (_, some l), [] => throw ("option requires an argument -- '" ++ [CodePoint.ofChar l] ++ "'")
    else if k.inFront then .ok ⟨[], a :: rest⟩
    else (k.read rest).map (Given.operand a)

end Known

namespace Call

/-- What a program says at the end of a complaint about its arguments. -/
def hint (c : Call) : Text := "\nTry '" ++ c.name ++ " --help' for more information."

def refused (c : Call) (message : Text) (status : Nat) : Ran := c.complained (message ++ c.hint) status

/-- Runs a program with its options read. -/
def withOptions (c : Call) (k : Known) (run : Given → Ran) : Ran :=
  match { k with inFront := k.inFront || c.isStrict }.read c.args with
  | .ok g => run g
  | .error message => c.refused message 1

/-- What a program says when it is given nothing. -/
def missingOperand (c : Call) : Ran := c.refused "missing operand" 1

end Call

end LspEndpoint.Program
