import LspEndpoint.Program.Shell.Builtin

/-!
Signals, the traps for them, and the processes that run beside a shell.
-/
namespace LspEndpoint.Program.Shell

/-- The signals with their numbers. -/
def signals : List (Nat × String) :=
  [(0, "EXIT"), (1, "HUP"), (2, "INT"), (3, "QUIT"), (4, "ILL"), (5, "TRAP"), (6, "ABRT"), (7, "BUS"),
    (8, "FPE"), (9, "KILL"), (10, "USR1"), (11, "SEGV"), (12, "USR2"), (13, "PIPE"), (14, "ALRM"),
    (15, "TERM"), (17, "CHLD"), (18, "CONT"), (19, "STOP"), (20, "TSTP"), (21, "TTIN"), (22, "TTOU"),
    (23, "URG"), (24, "XCPU"), (25, "XFSZ"), (26, "VTALRM"), (27, "PROF"), (28, "WINCH"), (29, "IO"),
    (30, "PWR"), (31, "SYS")]

/-- The name of a signal. Those from 34 to 64 are named by how far they are from the nearer end. -/
def signalName (n : Nat) : Text :=
  let from_ (name : String) (sign : String) (k : Nat) : Text :=
    if k = 0 then Text.ofString name else Text.ofString (name ++ sign) ++ Text.ofNat k
  match signals.find? fun s => s.1 = n with
  | some s => Text.ofString s.2
  | none =>
    if 34 ≤ n && n ≤ 49 then from_ "RTMIN" "+" (n - 34)
    else if 50 ≤ n && n ≤ 64 then from_ "RTMAX" "-" (64 - n)
    else Text.ofNat n

/-- The number of a signal that is given by its number or its name. -/
def signalOf? (t : Text) : Option Nat :=
  if t ≠ [] && t.all CodePoint.isDigit then
    let n := t.foldl (fun n c => n * 10 + c.digitValue) 0
    if n ≤ 64 then some n else none
  else (List.range 65).find? fun n => signalName n = t

/-- What is said of a process that a signal has ended. -/
def signalTexts : List (Nat × String) :=
  [(1, "Hangup"), (2, "Interrupt"), (3, "Quit"), (4, "Illegal instruction"), (5, "Trace/breakpoint trap"),
    (6, "Aborted"), (7, "Bus error"), (8, "Floating point exception"), (9, "Killed"),
    (10, "User defined signal 1"), (11, "Segmentation fault"), (12, "User defined signal 2"),
    (13, "Broken pipe"), (14, "Alarm clock"), (15, "Terminated"), (16, "Stack fault"),
    (24, "CPU time limit exceeded"), (25, "File size limit exceeded"), (26, "Virtual timer expired"),
    (27, "Profiling timer expired"), (29, "I/O possible"), (30, "Power failure"), (31, "Bad system call")]

def signalText (n : Nat) : Text :=
  match signalTexts.lookup n with
  | some t => Text.ofString t
  | none => if 34 ≤ n then "Real-time signal " ++ Text.ofNat (n - 34) else "Unknown signal " ++ Text.ofNat n

/-- The signals that are not noticed unless there is a trap for them. -/
def unnoticed : List Nat := [0, 17, 18, 23, 28]

/-- The signals that stop a process, which goes on later. -/
def stopping : List Nat := [19, 20, 21, 22]

namespace Act

/-- Says which signal has ended a process, unless it is one that users send or one about a closed pipe. -/
def report (e : Ending) : Act Unit := do
  match e.signal with
  | some n => if n ≠ 2 && n ≠ 13 then sayError (signalText n ++ "\n")
  | none => return ()

/-- A signal comes to the shell. It ends the shell unless there is a trap for it. -/
def receive (signal : Nat) : Act Unit := do
  let action ← if signal = 9 then pure none else pure ((← process).traps.lookup (signalName signal))
  match action with
  | some [] => return ()
  | some _ => change fun p =>
      { p with arrived := ((p.arrived.filter (· ≠ signal)) ++ [signal]).mergeSort fun a b => a ≤ b }
  | none => if !unnoticed.contains signal && !stopping.contains signal then throw (.killed signal)

/-- The signals for this shell that are sent up to a time, in their order. -/
def sentUntil (time : Option Nat) : Act (List (Nat × Nat × Nat)) := do
  let own ← ownNumber
  let due := (← world).sent.filter fun s => s.2.1 = own && time.all (s.1 ≤ ·)
  return due.mergeSort fun a b => a.1 ≤ b.1

/-- Takes the signals that have come by now. Those are for the whole shell, not for its parts. -/
def notice : Act Unit := do
  if (← process).isApart then return ()
  let own ← ownNumber
  let clock := (← world).clock
  let due ← sentUntil (some clock)
  changeWorld fun w => { w with sent := w.sent.filter fun s => s.2.1 ≠ own || clock < s.1 }
  for s in due do receive s.2.2

/-- Passes the time until jobs are over. A signal that comes before cuts it short and is given, if there is
a trap for it. -/
def await (js : List Job) : Act (Option Nat) := do
  let p ← process
  let latest (t : Option Nat) (j : Job) : Option Nat := t.bind fun t => j.finish.map (max t)
  let finish := js.foldl latest (some (← world).clock)
  let isHeard (signal : Nat) : Bool := match p.traps.lookup (signalName signal) with
    | some action => action ≠ []
    | none => !unnoticed.contains signal
  let early := (← sentUntil finish).find? fun s => finish.all (s.1 < ·) && isHeard s.2.2
  match if p.isApart then none else early, finish with
  | some s, _ =>
    changeWorld fun w => { w with clock := max w.clock s.1 }
    notice
    return (← process).arrived.head?
  | none, some t =>
    changeWorld fun w => { w with clock := t }
    return none
  | none, none => throw .endless

/-- Keeps in mind that jobs have been waited for. -/
def awaited (js : List Job) : Act Unit := change fun p =>
  { p with jobs := p.jobs.map fun j => if js.any (fun k => k.place = j.place) then { j with isAwaited := true } else j }

/-- Whether the end of a job is still to be noticed. -/
def isFresh (j : Job) : Act Bool := do
  let last := (← process).lastWaited
  return !j.isAwaited && j.finish.all (last ≤ ·)

/-- The job that a text with a percent sign in front stands for. -/
def jobOf (t : Text) : Act Job := do
  let jobs := (← process).jobs
  let which := t.tail
  if which = [] || which = "%" || which = "+" then
    match jobs.getLast? with
    | some j => return j
    | none => fail "No current job"
  else if which = "-" then
    match jobs.dropLast.getLast? with
    | some j => return j
    | none => fail "No previous job"
  else
    let n := which.foldl (fun n c => n * 10 + c.digitValue) 0
    match if which.all CodePoint.isDigit then jobs.find? fun j => j.place = n else none with
    | some j => return j
    | none => fail ("No such job: " ++ t)

/-- A signal comes to a job. A program stops at once, and with it what it would have done; programs in a row
go on except for the last one, and what is more than one program leaves behind the one that is running. -/
def strike (signal : Nat) (j : Job) : Act Unit := do
  let clock := (← world).clock
  let isIgnored := (← process).traps.lookup (signalName signal) = some []
  let isSheltered := (signal = 2 || signal = 3) && j.start < clock
  if isIgnored || isSheltered || unnoticed.contains signal || stopping.contains signal then return ()
  let struck : Job := { j with
    ending := ⟨128 + signal, some signal⟩, finish := if j.isRow then j.finish else some clock }
  change fun p => { p with jobs := p.jobs.map fun k => if k.place = j.place then struck else k }
  if !j.isRow then
    changeWorld fun w => { w with
      channels := w.channels.map (Channel.without j.number clock)
      holders := if j.isPlain || clock ≤ j.start then
          w.holders.map fun h => if h.1 = j.number then (h.1, h.2.map (min clock) |>.or (some clock)) else h
        else w.holders }

end Act

namespace Builtin

open Act

/-- Waits for jobs. -/
def waiting : Builtin := fun args => do
  match args with
  | [] =>
    let jobs := (← process).jobs
    match ← await jobs with
    | some signal => return 128 + signal
    | none =>
      awaited jobs
      return 0
  | args => go 127 args
where
  go (status : Nat) : List Text → Act Nat
    | [] => return status
    | a :: rest => do
      let job? : Option Job ← if a.startsWith "%" then pure (some (← jobOf a)) else
        let n ← number a
        pure ((← process).jobs.find? fun j => j.number = n)
      match job? with
      | none => go 127 rest
      | some j =>
        match ← await [j] with
        | some signal => return 128 + signal
        | none =>
          if ← isFresh j then report j.ending
          awaited [j]
          go j.ending.status rest

/-- Moves a job. There are none that could be moved. -/
def move : Builtin := fun args => do
  let (_, args) ← optionsOf "" args
  let name := args.headD "%"
  discard (if name.startsWith "%" then jobOf name else fail ("No such job: " ++ name))
  fail ("job " ++ args.headD "(null)" ++ " not created under job control")

/-- Whether a job counts as running. -/
def isRunning (clock : Nat) (j : Job) : Bool := !j.isAwaited && j.finish.all (clock ≤ ·)

/-- A job as a line: its place, a sign for the latest two, and what has become of it. -/
def jobLine (clock : Nat) (latest : List Nat) (j : Job) : Text :=
  let sign : Text := if latest[0]? = some j.place then "+" else if latest[1]? = some j.place then "-" else " "
  let state : Text :=
    if isRunning clock j then "Running"
    else match j.ending.signal with
    | some n => signalText n
    | none => if j.ending.status = 0 then "Done" else "Done(" ++ Text.ofNat j.ending.status ++ ")"
  let line := "[" ++ Text.ofNat j.place ++ "] " ++ sign ++ " " ++ state
  line ++ List.replicate (max 1 (33 - line.length)) (CodePoint.ofChar ' ') ++ "\n"

/-- The lines of jobs. Each that is over makes room among the latest two. -/
def jobLines (clock : Nat) (latest : List Nat) : List Job → Text
  | [] => []
  | j :: rest =>
    let left := if isRunning clock j then latest else latest.filter (· ≠ j.place)
    jobLine clock latest j ++ jobLines clock left rest

/-- Shows the jobs, the latest first; those that are over are forgotten. -/
def listJobs : Builtin := fun args => do
  match args with
  | [] =>
    let jobs := (← process).jobs
    let clock := (← world).clock
    change fun p => { p with jobs := p.jobs.filter (isRunning clock) }
    say (jobLines clock (jobs.reverse.map Job.place) jobs.reverse)
  | args =>
    args.forM fun (a : Text) => do
      let j ← if a.startsWith "%" then jobOf a else fail ("No such job: " ++ a)
      let latest := (← process).jobs.reverse.map Job.place
      let clock := (← world).clock
      discard (say (jobLine clock latest j))
      if !isRunning clock j then change fun p => { p with jobs := p.jobs.filter fun k => k.place ≠ j.place }
    return 0

/-- Sends a signal to one process. A part of a shell reaches the whole of it only from outside. -/
def send (signal : Nat) (n : Nat) : Act Nat := do
  let p ← process
  let noProcess : Act Nat := do
    complain "No such process\n"
    return 1
  if n = 0 || p.shells.contains n then
    let target := if n = 0 then p.shells.headD 1 else n
    if target = p.shells.headD 1 && !p.isApart then receive signal
    else changeWorld fun w => { w with sent := (w.clock, target, signal) :: w.sent }
    return 0
  match p.jobs.find? fun j => j.number = n with
  | none => noProcess
  | some j =>
    if ← isFresh j then
      if !j.isOver (← world).clock then strike signal j
      return 0
    else noProcess

/-- Sends signals. -/
def sending : Builtin := fun args => do
  let usage : Text := "Usage: kill [-s sigspec | -signum | -sigspec] [pid | job]... or\nkill -l [exitstatus]"
  let sendAll (signal : Nat) (targets : List Text) : Act Nat := do
    if targets.isEmpty then fail usage
    let mut status := 0
    for t in targets do
      if t.startsWith "%" then
        discard (jobOf t)
        complain "No such process\n"
        status := 1
      else if t.startsWith "-" then
        discard (number t.tail)
        complain "No such process\n"
        status := 1
      else
        let sent ← send signal (← number t)
        if sent ≠ 0 then status := sent
    return status
  match args with
  | [] => fail usage
  | a :: rest =>
    if a = "-l" then
      match rest with
      | [] => say (((List.range 65).map fun n => (if n = 0 then Text.ofString "0" else signalName n) ++ "\n").flatten)
      | t :: _ =>
        if t.startsWith "-" then fail ("Illegal option " ++ t.take 2)
        let n ← number t
        let signal := if 128 < n then n - 128 else n
        if signal = 0 || 64 < signal then fail ("invalid signal number or exit status: " ++ t)
        say (signalName signal ++ "\n")
    else if a = "-s" then
      match rest with
      | [] => fail "No arg for -s option"
      | name :: rest =>
        match signalOf? name with
        | some n => sendAll n rest
        | none => fail ("invalid signal number or name: " ++ name)
    else if a = "--" then sendAll 15 rest
    else if a.startsWith "-" then
      match signalOf? a.tail with
      | some n => sendAll n (if rest.head? = some (Text.ofString "--") then rest.tail else rest)
      | none => fail ("Illegal option -" ++ a.tail.take 1)
    else sendAll 15 args

/-- The traps as lines that set them again. -/
def trapping : Builtin := fun args => do
  let (_, args) ← optionsOf "" args
  match args with
  | [] =>
    let traps := (← process).traps
    say (signals.flatMap fun s =>
      match traps.lookup (Text.ofString s.2) with
      | some action => "trap -- " ++ quotedFor action ++ " " ++ Text.ofString s.2 ++ "\n"
      | none => [])
  | first :: rest =>
    let isReset := rest.isEmpty || (signalOf? first).isSome && first.all CodePoint.isDigit
    let (action, names) := if isReset then (Text.ofString "-", args) else (first, rest)
    for name in names do
      match signalOf? name with
      | none =>
        sayError ("trap: " ++ name ++ ": bad trap\n")
        return 1
      | some n =>
        let key := signalName n
        let put (traps : Entries Text) : Entries Text :=
          if action = "-" then Entries.erase key traps else Entries.insert key action traps
        change fun p => { p with traps := put p.traps }
    return 0

end Builtin

end LspEndpoint.Program.Shell
