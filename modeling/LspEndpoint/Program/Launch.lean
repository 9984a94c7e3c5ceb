import LspEndpoint.Config.Environment
import LspEndpoint.Fault
import LspEndpoint.Number.Layout
import LspEndpoint.Program.Shell.Evaluation
import LspEndpoint.Text.Lines
import LspEndpoint.Text.Native

/-!
Launching a program. The first argument names it, by a path or by a name that is looked up; what it
prints is read as UTF-8, and every kind of line end becomes a line feed. A program that takes longer
than it may has no output.
-/
namespace LspEndpoint.Program

/-- What a program that was run has printed, the milliseconds after which nothing more came, or none if
there was no end to it, and the files that it left. -/
structure Finished where
  printed : Text
  elapsed : Option Nat
  files : File.System

open Shell in
/-- A process that reads nothing and gathers what it prints, complaints too. It takes a millisecond at least. -/
def fresh (inherited : Entries Text) (files : File.System) : Machine :=
  let vacant : Process :=
    { zero := [], arguments := [], settings := [], functions := [], aliases := [], options := [],
      descriptors := [(0, 1), (1, 0), (2, 0)], directory := Builtin.placeText files.here, status := 0, line := 0,
      lineRead := 0, remembered := [], acting := none, traps := [], locals := [], loops := 0, substituted := 0,
      background := none, jobs := [], number := 0, shells := [], isApart := false, isLast := false,
      interrupted := none, arrived := [], lastWaited := 0, optionOffset := 0, permissions := Permissions.usual,
      limits := Limits.usual }
  let world : World :=
    { files, channels := #[.sink [], .source []], clock := 1, holders := [], sent := [], steps := 0,
      texts := [], nextText := 0, nextNumber := 2, started := 0 }
  ⟨Act.started vacant 1 [] inherited, world⟩

open Shell in
/-- Runs a program to its end. -/
def finished (inherited : Entries Text) (files : File.System) (program name : Text) (args : List Text) :
    Finished :=
  let act : Act Unit := Act.runProgram (runner deepest) inherited deepest program name args
  let (stop, m) : Except Stop Unit × Machine := StateT.run (ExceptT.run act) (fresh inherited files)
  let printed := match m.world.channels.toList with
    | .sink written :: _ => inOrder written
    | _ => []
  let ending : Option Nat := match stop with
    | .error .endless => none
    | _ => m.world.holders.foldl (fun t h => t.bind fun t => h.2.map (max t)) (some m.world.clock)
  ⟨printed, ending,
    { m.world.files with here := files.here }⟩

/-- The program of that name with its arguments, run to its end. -/
def run (e : Environment) (files : File.System) (name : Text) (args : List Text) : Except Fault Finished :=
  let inherited := e.bindings.map fun b => (b.1.octets, b.2.octets)
  let path := (inherited.lookup (Text.ofString "PATH")).getD usualPath
  match search files (candidates (some path) name.octets) with
  | .error r => .error (.refused r name)
  | .ok program => .ok (finished inherited files program name.octets (args.map Text.octets))

/-- What keeps an argument from being handed over. -/
def argumentFault? (t : Text) : Option Fault :=
  match t.nonNative? with
  | some e => some (.unencodable e)
  | none => if t.any fun c => c.val = 0 then some .nulByte else none

/-- The name is looked at before the arguments. -/
def argumentsFault? : List Text → Option Fault
  | [] => none
  | name :: args =>
    match name.nonNative? with
    | some e => some (.unencodable e)
    | none => (name :: args).findSome? argumentFault?

def secondsText (limit : Binary64) : Text := limit.text ⟨"nan", "inf"⟩

/-- The longest time that can be waited for, in seconds. -/
def longestWait : Binary64 := Binary64.ofRatio false 2147483647 1000

/-- Whether the program is stopped because its time is over, which it is in the end if there is no end to it; a limit that
is no time to wait for is a fault of its own. -/
def waitFault? (argv : List Text) (limit : Option Binary64) (elapsed : Option Nat) : Option Fault :=
  match limit with
  | none => none
  | some limit =>
    if !limit.isFinite || !(limit.sub longestWait).atMostZero then some (.unwaitable limit)
    else if !limit.atMostZero && elapsed.any fun elapsed =>
        ((Binary64.ofRatio false elapsed 1000).sub limit).atMostZero then none
    else some (.timedOut argv (secondsText limit))

/-- The longest argument, the octet at its end counted. -/
def maxArgument : Nat := 131072

/-- What the program printed, and the files that it leaves. -/
def launch (e : Environment) (limit : Option Binary64) (files : File.System) (argv : List Text) :
    Except Fault Text × File.System :=
  match argumentsFault? argv with
  | some f => (.error f, files)
  | none =>
    match argv with
    | [] => (.error .noArguments, files)
    | name :: args =>
      if argv.any fun t => maxArgument ≤ t.octets.length then
        (.error (.refused .tooMuch name), files)
      else
        match run e files name args with
        | .error f => (.error f, files)
        | .ok r =>
          match waitFault? argv limit r.elapsed with
          | some f => (.error f, r.files)
          | none => (.ok r.printed.bytes.decode.unifyLines, r.files)

end LspEndpoint.Program
