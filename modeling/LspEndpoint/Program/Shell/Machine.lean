import LspEndpoint.Program.Basic
import LspEndpoint.Program.Shell.Allowance
import LspEndpoint.Program.Shell.Grammar

/-!
What a script acts on. A process has variables, functions and descriptors of its own; files, what stands
behind descriptors, and the time are shared by all. An action may stop early: it
leaves a loop, a function or the shell, or it never ends.
-/
namespace LspEndpoint.Program.Shell

structure Variable where
  value : Option Text
  isExported : Bool
  isReadOnly : Bool

def Variable.unset : Variable := ⟨none, false, false⟩

/-- A part of what is gathered: when it was written, by the process of which number, and the text. -/
structure Writing where
  time : Nat
  writer : Nat
  text : Text

/-- What stands behind a descriptor: a place among the files, a text that is read, or one that is
gathered, what was written held backwards. -/
inductive Channel
  | file (place : File.Place) (offset : Nat) (appends reads writes : Bool)
  | source (rest : Text)
  | sink (written : List Writing)

/-- What has been gathered, in the order of time. -/
def inOrder (written : List Writing) : Text :=
  (written.reverse.mergeSort fun a b => a.time ≤ b.time).flatMap Writing.text

/-- What is left when a process writes nothing after a time. -/
def Channel.without (writer time : Nat) : Channel → Channel
  | .sink written => .sink (written.filter fun p => p.writer ≠ writer || p.time ≤ time)
  | c => c

/-- How a process has ended: its status, and the signal that ended it if one did. -/
structure Ending where
  status : Nat
  signal : Option Nat

/-- A process in the background: its place among the others, its number, when it started, when it ends if
it ever does, and how; whether several programs stand in a row, whether it is more than one program; and
whether it has been waited for. -/
structure Job where
  place : Nat
  number : Nat
  start : Nat
  finish : Option Nat
  ending : Ending
  isRow : Bool
  isPlain : Bool
  isAwaited : Bool

/-- Whether a job is over at a time. -/
def Job.isOver (clock : Nat) (j : Job) : Bool := j.finish.any (· ≤ clock)

/-- What belongs to one shell: its arguments and variables, what its names of commands stand for, its
descriptors, how the last command ended, the line that is being run and the one that has been read, the
programs that it has found, its jobs, what it allows, and what else its own commands change. It has a
number of its own; `shells` are those of the shell that it belongs to and of the ones around that one, and
it may be a part of that shell only. `interrupted` is the status that a trap must leave as it is, and
`arrived` are the signals for which traps have still to be run. -/
structure Process where
  zero : Text
  arguments : List Text
  settings : Entries Variable
  functions : Entries Command
  aliases : Entries Text
  options : Text
  descriptors : List (Nat × Nat)
  directory : Text
  status : Nat
  line : Nat
  lineRead : Nat
  remembered : List Text
  acting : Option Text
  traps : Entries Text
  locals : List (Entries Variable)
  loops : Nat
  substituted : Nat
  background : Option Nat
  jobs : List Job
  number : Nat
  shells : List Nat
  isApart : Bool
  isLast : Bool
  interrupted : Option Nat
  arrived : List Nat
  lastWaited : Nat
  optionOffset : Nat
  permissions : Permissions
  limits : Limits

/-- What all processes share: the files and channels, the time, the jobs that hold the output with the end
of each, the signals on their way, each with its time and the shell that it is for, how many steps have been
made and processes started, and the texts that stand in scripts. -/
structure World where
  files : File.System
  channels : Array Channel
  clock : Nat
  holders : List (Nat × Option Nat)
  sent : List (Nat × Nat × Nat)
  steps : Nat
  texts : List (Nat × Word)
  nextText : Nat
  nextNumber : Nat
  started : Nat

structure Machine where
  process : Process
  world : World

/-- Why an action stops early. -/
inductive Stop
  | breaks (loops : Nat)
  | continues (loops : Nat)
  | returns
  | exits
  | fails
  | killed (signal : Nat)
  | endless
deriving DecidableEq

abbrev Act := ExceptT Stop (StateM Machine)

namespace Act

def process : Act Process := do return (← get).process

def world : Act World := do return (← get).world

def change (f : Process → Process) : Act Unit := modify fun m => { m with process := f m.process }

def changeWorld (f : World → World) : Act Unit := modify fun m => { m with world := f m.world }

def setStatus (status : Nat) : Act Unit := change fun p => { p with status }

/-- The outcome of an action, however it stops. -/
def outcome (a : Act Unit) : Act (Option Stop) := fun m =>
  match a m with
  | (.ok (), m) => (.ok none, m)
  | (.error s, m) => (.ok (some s), m)

/-- An action, and another one behind it however the first one stops. -/
def andAfter (a : Act Unit) (after : Act Unit) : Act Unit := do
  let stop ← outcome a
  after
  match stop with
  | some s => throw s
  | none => return ()

/-- How many steps are run before a script counts as endless. -/
def patience : Nat := 200000

/-- One more step. -/
def step : Act Unit := do
  changeWorld fun w => { w with steps := w.steps + 1 }
  if patience < (← world).steps then throw .endless

/-- The number of the shell, whatever part of it a process is. -/
def ownNumber : Act Nat := do return (← process).shells.headD 1

/-- A number that no process has had. -/
def freshNumber : Act Nat := do
  let n := (← world).nextNumber
  changeWorld fun w => { w with nextNumber := n + 1 }
  return n

def hasOption (c : Char) : Act Bool := do return (← process).options.contains (CodePoint.ofChar c)

/-! Descriptors. -/

def channelAt? (descriptor : Nat) : Act (Option (Nat × Channel)) := do
  let m ← get
  return do
    let i ← m.process.descriptors.lookup descriptor
    let c ← m.world.channels[i]?
    return (i, c)

def setChannel (i : Nat) (c : Channel) : Act Unit :=
  changeWorld fun w => { w with channels := w.channels.setIfInBounds i c }

def addChannel (c : Channel) : Act Nat := do
  let i := (← world).channels.size
  changeWorld fun w => { w with channels := w.channels.push c }
  return i

/-- Makes a descriptor lead to a channel, or closes it. -/
def connect (descriptor : Nat) (i : Option Nat) : Act Unit := change fun p =>
  { p with descriptors := i.toList.map (descriptor, ·) ++
      p.descriptors.filter fun d => d.1 ≠ descriptor }

/-- Writes to a descriptor. -/
def write (descriptor : Nat) (t : Text) : Act (Except File.Refusal Unit) := do
  match ← channelAt? descriptor with
  | some (i, .sink written) =>
    setChannel i (.sink (⟨(← world).clock, (← process).number, t⟩ :: written))
    return .ok ()
  | some (i, .file place offset appends reads true) =>
    match (← world).files.write place (if appends then none else some offset) t with
    | .ok files =>
      changeWorld fun w => { w with files }
      setChannel i (.file place (offset + t.length) appends reads true)
      return .ok ()
    | .error r => return .error r
  | _ => return .error .badDescriptor

/-- What is left to read from a descriptor. -/
def pending (descriptor : Nat) : Act (Except File.Refusal Text) := do
  match ← channelAt? descriptor with
  | some (_, .source rest) => return .ok rest
  | some (_, .file place offset _ true _) =>
    match (← world).files.get? place with
    | none => return .ok []
    | some e => return (File.System.contents e).map (·.drop offset)
  | _ => return .error .badDescriptor

/-- Passes over a part of what is left to read. -/
def consume (descriptor : Nat) (n : Nat) : Act Unit := do
  match ← channelAt? descriptor with
  | some (i, .source rest) => setChannel i (.source (rest.drop n))
  | some (i, .file place offset appends reads writes) =>
    setChannel i (.file place (offset + n) appends reads writes)
  | _ => pure ()

/-! Complaints. -/

/-- A complaint of the shell about what it does at a line of its script. -/
def complain (message : Text) : Act Unit := do
  let p ← process
  let acting : Text := match p.acting with
    | some name => name ++ ": "
    | none => []
  discard (write 2 (p.zero ++ ": " ++ Text.ofNat p.line ++ ": " ++ acting ++ message ++ "\n"))

/-- Complains and ends what is being done. -/
def fault {α : Type} (message : Text) (status : Nat) : Act α := do
  complain message
  setStatus status
  throw .fails

def fail {α : Type} (message : Text) : Act α := fault message 2

/-! Variables. -/

def variableAt (name : Text) : Act Variable := do
  return ((← process).settings.lookup name).getD .unset

def value? (name : Text) : Act (Option Text) := do return (← variableAt name).value

def putVariable (name : Text) (v : Variable) : Act Unit :=
  change fun p => { p with settings := Entries.insert name v p.settings }

def assign (name : Text) (value : Option Text) : Act Unit := do
  let v ← variableAt name
  if v.isReadOnly then fail (name ++ ": is read only")
  let isExported := v.isExported || (← hasOption 'a')
  putVariable name { v with value, isExported := isExported && (value.isSome || v.isExported) }
  if name = "OPTIND" then change fun p => { p with optionOffset := 0 }
  if name = "PATH" then change fun p => { p with remembered := [] }

/-- Where a name stands in the table of variables. -/
def shelf (name : Text) : Nat := (name.foldl (fun n c => n + c.val) ((name.headD (CodePoint.ofNat 0)).val * 16)) % 39

/-- The variables that programs inherit, in the order of the table. -/
def inherited : Act (Entries Text) := do
  let given := (← process).settings.filterMap fun (name, v) =>
    if v.isExported then v.value.map (name, ·) else none
  return given.mergeSort fun a b => shelf a.1 ≤ shelf b.1

/-- The octets that separate fields. -/
def separators : Act Text := do
  match ← value? "IFS" with
  | some t => return t
  | none => return " \t\n"

end Act

end LspEndpoint.Program.Shell
