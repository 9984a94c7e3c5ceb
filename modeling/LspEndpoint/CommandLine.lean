import LspEndpoint.Config.Environment
import LspEndpoint.Number.Integer

/-!
The command line. Switches have a long and a short name; a long name may be cut to a beginning that only
it has, and short ones may share one argument. The arguments are classified before the first of them
takes effect, and what no switch takes is refused at the end.
-/
namespace LspEndpoint.CommandLine

inductive Switch
  | help
  | config
  | version
deriving DecidableEq

namespace Switch

def all : List Switch := [help, config, version]

def long : Switch → Text
  | help => "--help"
  | config => "--config"
  | version => "--version"

def letter : Switch → CodePoint
  | help => 'h'
  | config => 'c'
  | version => 'v'

def short (s : Switch) : Text := ['-', s.letter]

/-- The names as messages show them. -/
def label : Switch → Text
  | help => "-h/--help"
  | config => "--config/-c"
  | version => "--version/-v"

def ofLetter? (c : CodePoint) : Option Switch := all.find? fun s => s.letter = c

def ofName? (t : Text) : Option Switch := all.find? fun s => t = s.long ∨ t = s.short

end Switch

/-- What a command line asks for. -/
inductive Request
  | serve (config : Option Text)
  | help
  | version
deriving DecidableEq

inductive Error
  | ambiguous (argument : Text) (switches : List Switch)
  | missingValue (s : Switch)
  | ignoredValue (s : Switch) (value : Text)
  | unrecognized (arguments : List Text)
deriving DecidableEq

def program : Text := "main.py"

def usageStart : Text := "usage: "

/-- What each switch may be given with. -/
def usageParts : List Text := ["[-h]", "[--config CONFIG]", "[--version]"]

/-- Parts in lines behind an indentation, as many in a line as fit into the width; `used` is the
width that the line begun has taken. -/
def folded (width indent used : Nat) (line : List Text) : List Text → List Text
  | [] => if line = [] then [] else [Text.joined " " line]
  | part :: parts =>
    if width < used + 1 + part.length ∧ line ≠ [] then
      Text.joined " " line :: folded width indent (indent + part.length) [part] parts
    else folded width indent (used + 1 + part.length) (line ++ [part]) parts

/-- Lines with each but the first moved to the right. -/
def hanging (indent : Nat) (lines : List Text) : Text :=
  Text.joined ("\n" ++ List.replicate indent (CodePoint.ofChar ' ')) lines

/-- How to call the program, in lines of that width. The parts stand beside the program's name, or below
it where the name takes more than three quarters of a line. -/
def usage (width : Nat) : Text :=
  let start := usageStart.length
  let taken := start + program.length
  let line := Text.joined " " (program :: usageParts)
  usageStart ++
    (if start + line.length ≤ width then line
    else if 4 * taken ≤ 3 * width then
      hanging (taken + 1) (folded width (taken + 1) (start - 1) [] (program :: usageParts))
    else hanging start (program :: folded width start (start - 1) [] usageParts)) ++ "\n"

/-- The width of a terminal that tells nothing about itself. -/
def defaultColumns : Nat := 80

/-- The width of lines: two less than the environment says that there are columns. -/
def lineWidth (e : Environment) : Nat :=
  let columns := match (e.bindings.lookup (Text.ofString "COLUMNS")).map Integer.read with
    | some (.ok n) => if 0 < n then n.toNat else defaultColumns
    | _ => defaultColumns
  columns - 2

def helpText (width : Nat) : Text :=
  usage width ++ "\nRacket Language Server\n\noptions:\n" ++
    "  -h, --help            show this help message and exit\n" ++
    "  --config CONFIG, -c CONFIG\n" ++
    "                        Path to server configuration YAML file (default:\n" ++
    "                        built-in settings)\n" ++
    "  --version, -v         show program's version number and exit\n"

def versionText : Text := "racket-langserver 1.0.0\n"

namespace Error

def reason : Error → Text
  | ambiguous argument switches =>
    "ambiguous option: " ++ argument ++ " could match " ++
      Text.joined ", " (switches.map Switch.long)
  | missingValue s => "argument " ++ s.label ++ ": expected one argument"
  | ignoredValue s value => "argument " ++ s.label ++ ": ignored explicit argument " ++ value.quoted
  | unrecognized arguments => "unrecognized arguments: " ++ Text.joined " " arguments

def message (width : Nat) (e : Error) : Text :=
  usage width ++ program ++ ": error: " ++ e.reason ++ "\n"

/-- The exit code of a command line that is refused. -/
def exitCode : Nat := 2

end Error

/-- An argument by its form; a switch may have a value in the same argument, and stands there by its
long or its short name. -/
inductive Form
  | plain
  | separator
  | switch (s : Switch) (isLong : Bool) (value : Option Text)
  | unknown
deriving DecidableEq

structure Argument where
  text : Text
  form : Form

/-- A negative number, whole or with a point; a line end may follow it. -/
def isNegativeNumber (t : Text) : Bool :=
  match t.withoutLineFeed with
  | [] => false
  | c :: t =>
    let isDigit := fun d : CodePoint => d.decimalValue?.isSome
    let fraction := t.dropWhile isDigit
    c = '-' && match fraction with
      | [] => t ≠ []
      | point :: ds => point = '.' && ds ≠ [] && ds.all isDigit

/-- A switch named in full, with its value behind `=` if it has one. -/
def inFull? (t : Text) : Option Form :=
  let named (name : Text) (value : Option Text) : Option Form :=
    (Switch.ofName? name).map fun s => .switch s (decide (name = s.long)) value
  match named t none with
  | some f => some f
  | none => (Text.after? '=' t).bind fun value => named (Text.before '=' t) (some value)

/-- What starts with no switch: a number and what holds a space is a plain argument. -/
def other (t : Text) : Form :=
  if isNegativeNumber t || t.contains ' ' then .plain else .unknown

/-- A long switch whose name is cut short. -/
def abbreviated (t : Text) : Except Error Form :=
  let start := Text.before '=' t
  match Switch.all.filter fun s => start.isPrefixOf s.long with
  | [] => .ok (other t)
  | [s] => .ok (.switch s true (Text.after? '=' t))
  | ss => .error (.ambiguous t ss)

def formOf (t : Text) : Except Error Form :=
  match t with
  | c :: d :: rest =>
    if c ≠ '-' then .ok .plain
    else
      match inFull? t with
      | some f => .ok f
      | none =>
        if d = '-' then abbreviated t
        else
          match Switch.ofLetter? d with
          | some s => .ok (.switch s false (some rest))
          | none => .ok (other t)
  | _ => .ok .plain

/-- The arguments by their forms; behind a separator all are plain. -/
def classify : List Text → Except Error (List Argument)
  | [] => .ok []
  | t :: rest =>
    if t = "--" then .ok (⟨t, .separator⟩ :: rest.map fun u => ⟨u, .plain⟩)
    else do
      let form ← formOf t
      return ⟨t, form⟩ :: (← classify rest)

/-- The request of a switch that ends the command line. -/
def Switch.request : Switch → Request
  | .help => .help
  | .version => .version
  | .config => .serve none

/-- The last of the switches in one argument, with its value if the argument holds it; `s` is the switch
in front of the characters. Only `config` takes a value, so what follows another one must be short
names of more switches. -/
def cluster (s : Switch) : Text → Except Error (Switch × Option Text)
  | [] => .ok (s, none)
  | c :: rest =>
    if s = .config then .ok (s, some (c :: rest))
    else
      match Switch.ofLetter? c with
      | none => .error (.ignoredValue s (c :: rest))
      | some next => cluster next rest

/-- The last switch in one argument, with its value if the argument holds it. -/
def switches (s : Switch) (isLong : Bool) : Option Text → Except Error (Switch × Option Text)
  | none => .ok (s, none)
  | some value =>
    if s = .config then .ok (s, some value)
    else if isLong || value = [] then .error (.ignoredValue s value)
    else cluster s value

/-- Follows the arguments in order; `config` is the last value so far, and `extras` are the arguments
that nothing took. -/
def follow (config : Option Text) (extras : List Text) : List Argument → Except Error Request
  | [] => if extras = [] then .ok (.serve config) else .error (.unrecognized extras)
  | ⟨_, .switch s isLong value⟩ :: rest =>
    match switches s isLong value with
    | .error e => .error e
    | .ok (.config, some v) => if s = .config then follow (some v) extras rest else .ok s.request
    | .ok (.config, none) =>
      match rest with
      | ⟨v, .plain⟩ :: rest => if s = .config then follow (some v) extras rest else .ok s.request
      | _ => .error (.missingValue .config)
    | .ok _ => .ok s.request
  | ⟨t, _⟩ :: rest => follow config (extras ++ [t]) rest

def read (arguments : List Text) : Except Error Request := do
  follow none [] (← classify arguments)

example : read ["-x", "--conf=a", "y"] = .error (.unrecognized ["-x", "y"]) := by rfl

example : read ["-vca", "-x"] = .ok .version := by rfl

example : read ["-vhx"] = .error (.ignoredValue .help "x") := by rfl

end LspEndpoint.CommandLine
