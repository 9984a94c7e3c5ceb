import LspEndpoint.Program.Shell.Job
import LspEndpoint.Program.Standard

/-!
Running commands. A command runs others one level further in, so the rules are given for a way to do that,
and the levels are tied together at the end. A process of its own, such as a command in parentheses, leaves
nothing behind but files, output and time.
-/
namespace LspEndpoint.Program.Shell

/-- What is run one level further in: a command or a script. Either may be a test, whose failure is no
fault. -/
inductive Task
  | command (c : Command) (isTested : Bool)
  | script (t : Text) (isTested : Bool)

abbrev Runner := Task → Act Unit

namespace Act

/-! Redirections. -/

/-- Why a file cannot be opened, in the words of a shell. -/
def openReason (isOutput : Bool) (r : File.Refusal) : Text :=
  if isAbsent r then (if isOutput then "Directory nonexistent" else "No such file") else r.reason

/-- The descriptor that a path stands for, if it names one. -/
def descriptorOf? (path : Text) : Option Nat :=
  if path = "/dev/stdin" then some 0
  else if path = "/dev/stdout" then some 1
  else if path = "/dev/stderr" then some 2
  else
    match path with
    | t => if t.startsWith "/dev/fd/" && t.length = 9 then
        (t.getLast?.filter CodePoint.isDigit).map CodePoint.digitValue
      else none

/-- Opens a path for a descriptor. -/
def openPath (descriptor : Nat) (direction : Direction) (path : Text) : Act Bool := do
  let refuse (isOutput : Bool) (r : File.Refusal) : Act Bool := do
    let verb : Text := if isOutput then "cannot create " else "cannot open "
    complain (verb ++ path ++ ": " ++ openReason isOutput r)
    return false
  let isOutput := direction ≠ .input
  match descriptorOf? path with
  | some n =>
    match ← channelAt? n with
    | some (i, _) =>
      connect descriptor (some i)
      return true
    | none => refuse isOutput .missing
  | none =>
    let files := (← world).files
    if direction = .input then
      match files.locate path, files.find path with
      | .ok place, .ok e =>
        if e matches .device .terminal then refuse false .noDevice
        else
          connect descriptor (some (← addChannel (.file place 0 false true false)))
          return true
      | .error r, _ | _, .error r => refuse false r
    else
      let isPresent := match files.find path with
        | .ok (.file _) => true
        | _ => false
      if direction = .output && isPresent && (← hasOption 'C') then refuse true .present
      else
        match files.create path (direction = .output || direction = .clobber) with
        | .ok (files, place) =>
          changeWorld fun w => { w with files }
          connect descriptor (some (← addChannel
            (.file place 0 (direction = .append) (direction = .both) true)))
          return true
        | .error r => refuse true r

variable (output : Command → Act Text)

/-- Complains about a descriptor that is no digit as the reader of the script does. -/
def badNumber {α : Type} : Act α := do
  change fun p => { p with line := p.lineRead }
  fail "Syntax error: Bad fd number"

/-- A redirection whose word has been replaced: to a path, from another descriptor or to none, or from a
text of the script. -/
inductive Target
  | path (direction : Direction) (path : Text)
  | copy (source : Option Nat)
  | text (number : Nat)

/-- Replaces the words of redirections, each of which is given with its descriptor. -/
def resolve : List Redirect → Act (List (Nat × Target))
  | [] => return []
  | .here descriptor number :: rs => do return (descriptor, .text number) :: (← resolve rs)
  | .path descriptor direction word :: rs => do
    let t ← textOf output .text word
    let target : Target ← match direction with
      | .copyInput | .copyOutput =>
        if t = "-" then pure (.copy none)
        else
          match t with
          | [c] => if c.isDigit then pure (.copy (some c.digitValue)) else badNumber
          | _ => badNumber
      | direction => pure (.path direction t)
    return (descriptor, target) :: (← resolve rs)

/-- Makes one redirection. A complaint was made if it cannot be. -/
def redirect (descriptor : Nat) (target : Target) : Act Bool := do
  match target with
  | .path direction path => openPath descriptor direction path
  | .copy none =>
    connect descriptor none
    return true
  | .copy (some source) =>
    match ← channelAt? source with
    | some (i, _) =>
      connect descriptor (some i)
      return true
    | none =>
      complain (Text.ofNat source ++ ": " ++ File.Refusal.badDescriptor.reason)
      return false
  | .text number =>
    let w := ((← world).texts.lookup number).getD []
    let put : Act Unit := do
      connect descriptor (some (← addChannel (.source (← textOf output .quoted w))))
    match ← outcome put with
    | none => return true
    | some .fails => return false
    | some s => throw s

/-- Undoes redirections: their descriptors lead where they led before. -/
def restore (before : List (Nat × Nat)) (rs : List Redirect) : Act Unit := change fun p =>
  let isTouched (d : Nat × Nat) : Bool := rs.any fun r => r.descriptor = d.1
  { p with descriptors := before.filter isTouched ++ p.descriptors.filter fun d => !isTouched d }

/-- Makes redirections in turn as long as they can be made. -/
def redirectAll : List (Nat × Target) → Act Bool
  | [] => return true
  | (descriptor, target) :: rest => do
    if ← redirect output descriptor target then redirectAll rest else return false

/-! Processes. -/

/-- What becomes of traps in a process of its own: only those that ignore a signal stay. -/
def ignoring (traps : Entries Text) : Entries Text := traps.filter fun t => t.2 = []

variable (inner : Runner)

/-- Runs an action as a whole shell: however it stops, the trap for the end is run. -/
def toItsEnd (a : Act Unit) : Act Unit := do
  match ← outcome a with
  | some .endless => throw .endless
  | some (.killed n) => throw (.killed n)
  | _ =>
    match (← process).traps.lookup (Text.ofString "EXIT") with
    | none => return ()
    | some action =>
      let status := (← process).status
      change fun p => { p with
        traps := Entries.erase "EXIT" p.traps, acting := none, interrupted := some status }
      match ← outcome (inner (.script action false)) with
      | some .endless => throw .endless
      | some .exits | some .fails => return ()
      | _ => setStatus status

/-- Runs the traps for signals that have come. They leave the status as it was, unless they return. -/
def deliver : Act Unit := do
  notice
  match (← process).arrived with
  | [] => return ()
  | signals =>
    let p ← process
    let status := p.interrupted.getD p.status
    change fun p => { p with arrived := [], interrupted := some status }
    for signal in signals do
      match (← process).traps.lookup (signalName signal) with
      | none | some [] => pure ()
      | some action =>
        let acting := (← process).acting
        change fun p => { p with acting := none }
        let stop ← outcome (inner (.script action false))
        change fun p => { p with acting }
        if stop ≠ some .returns && stop ≠ some .exits && stop ≠ some .fails then setStatus status
        match stop with
        | none => pure ()
        | some s =>
          change fun q => { q with interrupted := p.interrupted }
          throw s
    change fun q => { q with interrupted := p.interrupted }

/-- Runs an action in a process of its own, and gives how it ended. -/
def apart (a : Act Unit) : Act Ending := do
  let saved ← process
  let here := (← world).files.here
  changeWorld fun w => { w with started := w.started + 1 }
  change fun p => { p with
    traps := ignoring p.traps, jobs := [], lineRead := 1, isApart := true, isLast := true, arrived := [] }
  let stop ← outcome (toItsEnd inner a)
  let status := (← process).status
  change fun _ => saved
  let clock := (← world).clock
  changeWorld fun w => { w with files := { w.files with here } }
  change fun p => { p with lastWaited := clock }
  if (saved.traps.lookup (signalName 17)).any (· ≠ []) then receive 17
  match stop with
  | none => return ⟨status, none⟩
  | some (.killed n) => return ⟨128 + n, some n⟩
  | some s => throw s

/-- The milliseconds that it takes to start a process. -/
def launchTime : Nat := 2

/-- The milliseconds until a process in the background does something. -/
def forkTime : Nat := 1

def pass (milliseconds : Nat) : Act Unit := changeWorld fun w => { w with clock := w.clock + milliseconds }

/-- The text that an action prints in a process of its own, and its status. -/
def printedBy (a : Act Unit) : Act (Text × Nat) := do
  let i ← addChannel (.sink [])
  let ending ← apart inner do
    connect 1 (some i)
    a
  report ending
  notice
  match (← world).channels[i]? with
  | some (.sink written) => return (inOrder written, ending.status)
  | _ => return ([], ending.status)

/-- What a command in a word prints. -/
def substitution (c : Command) : Act Text := do
  pass launchTime
  let (t, status) ← printedBy inner (inner (.command c false))
  change fun p => { p with substituted := status }
  return t.filter fun c => c.val ≠ 0

/-! Scripts. -/

/-- Reads and runs the commands of a script in turn. Without any there is nothing that could fail. -/
def runSource (isTested : Bool) : (bound : Nat) → (isFirst : Bool) → Source → Act Unit
  | 0, _, _ => return ()
  | bound + 1, isFirst, s => do
    let s := { s with aliases := (← process).aliases, nextText := (← world).nextText }
    match nextCommand s with
    | .error e =>
      change fun p => { p with line := e.line }
      fail e.message
    | .ok (none, _) => if isFirst then setStatus 0
    | .ok (some c, s) =>
      changeWorld fun w => { w with texts := s.texts ++ w.texts, nextText := s.nextText }
      change fun p => { p with lineRead := s.line }
      inner (.command c isTested)
      let isBlank := match c with
        | .nothing => true
        | _ => false
      runSource isTested bound (isFirst && isBlank) { s with texts := [] }

def runScript (t : Text) (isTested : Bool) : Act Unit := do
  let before := (← process).lineRead
  change fun p => { p with isLast := false }
  runSource inner isTested (t.length + 2) true (.start t 1 0 [])
  change fun p => { p with lineRead := before }

/-- Asks for the lines of a command, if somebody could be there to be asked. -/
def ask (lines : Nat) : Act Unit := do
  let first := (← value? "PS1").getD []
  let next := (← value? "PS2").getD []
  sayError (first ++ (List.replicate (lines - 1) next).flatten)

/-- Runs commands that are asked for in turn; a fault in one of them ends no more than that. -/
def converse : (bound : Nat) → Source → Act Unit
  | 0, _ => return ()
  | bound + 1, s => do
    let s := { s with aliases := (← process).aliases, nextText := (← world).nextText }
    match nextCommand s with
    | .error e =>
      ask 1
      change fun p => { p with line := e.line }
      discard (outcome (fail e.message : Act Unit))
      ask 1
      sayError "\n"
    | .ok (none, _) =>
      ask 1
      sayError "\n"
    | .ok (some c, next) =>
      ask (next.line - s.line)
      changeWorld fun w => { w with texts := next.texts ++ w.texts, nextText := next.nextText }
      change fun p => { p with lineRead := next.line }
      match ← outcome (inner (.command c false)) with
      | none | some .fails => converse bound { next with texts := [] }
      | some s => throw s

/-- Runs the input as a script. -/
def runInput : Act Unit := do
  match ← pending 0 with
  | .ok script =>
    consume 0 script.length
    Builtin.setOption 's' true
    if ← hasOption 'i' then converse inner (script.length + 2) (.start script 1 0 [])
    else runScript inner script false
  | .error _ => if ← hasOption 'i' then ask 1

/-- Starts a shell with its own arguments: a script behind an option, a file with one, or the input. -/
def runShell (args : List Text) : Act Unit := do
  let (isScript, rest) ← Builtin.readOptions true args
  let rest := rest.getD []
  let isInteractive ← hasOption 'i'
  if isInteractive then Builtin.setOption 'm' true
  Builtin.withoutJobControl
  if isScript then
    match rest with
    | [] => fail "-c requires an argument"
    | script :: rest =>
      change fun p => { p with zero := rest.headD p.zero, arguments := rest.tail }
      match isInteractive, ← outcome (runScript inner script false) with
      | _, none => return ()
      | true, some .fails => runInput inner
      | _, some s => throw s
  else
    let fromInput := rest.isEmpty || (← hasOption 's')
    match fromInput, rest with
    | false, file :: rest =>
      match (← world).files.read file with
      | .ok script =>
        change fun p => { p with zero := file, arguments := rest }
        runScript inner script false
      | .error .isDirectory => return ()
      | .error r => fail ("cannot open " ++ file ++ ": " ++ openReason false r)
    | _, rest =>
      change fun p => { p with arguments := rest }
      runInput inner

/-! Programs. -/

/-- Where a shell looks for programs when nothing says where. -/
def ownPath : Text := "/usr/local/sbin:/usr/local/bin:/usr/sbin:/usr/bin:/sbin:/bin"

/-- A shell's own variables, and those that it inherits on top of them; some keep the shell's own value. -/
def settingsOf (inherited : Entries Text) (directory : Text) : Entries Variable :=
  let own : List (String × Text) :=
    [("IFS", " \t\n"), ("PATH", ownPath), ("PS1", "# "), ("PS2", "> "), ("PS4", "+ "), ("OPTIND", "1")]
  let start : Entries Variable := own.map fun s => (Text.ofString s.1, ⟨some s.2, false, false⟩)
  let all := inherited.foldl
    (fun settings s => if isName s.1 then Entries.insert s.1 ⟨some s.2, true, false⟩ settings else settings) start
  let keep (name : String) (value : Text) (settings : Entries Variable) : Entries Variable :=
    let before := (settings.lookup (Text.ofString name)).getD .unset
    Entries.insert name { before with value := some value } settings
  Entries.insert "PWD" ⟨some directory, true, false⟩
    (keep "IFS" " \t\n" (keep "OPTIND" "1" (keep "PPID" "0" all)))

/-- A process of a shell with a number that is started with these variables. -/
def started (p : Process) (number : Nat) (name : Text) (inherited : Entries Text) : Process where
  zero := name
  arguments := []
  settings := settingsOf inherited p.directory
  functions := []
  aliases := []
  options := []
  descriptors := p.descriptors
  directory := p.directory
  status := 0
  line := 0
  lineRead := 0
  remembered := []
  acting := none
  traps := ignoring p.traps
  locals := []
  loops := 0
  substituted := 0
  background := none
  jobs := []
  number := p.number
  shells := number :: p.shells
  isApart := false
  isLast := false
  interrupted := none
  arrived := []
  lastWaited := 0
  optionOffset := 0
  permissions := p.permissions
  limits := p.limits

/-- Prints the chunks of a program. Behind the first fault of its output, which is given back, it prints
no more than complaints. -/
def publish (fault : Option File.Refusal) : List Chunk → Act (Option File.Refusal)
  | [] => return fault
  | c :: rest => do
    if c.isError then
      discard (write 2 c.text)
      publish fault rest
    else if fault.isSome then publish fault rest
    else
      match ← write 1 c.text with
      | .ok () => publish none rest
      | .error r => publish (some r) rest

/-- Runs one of the usual programs. -/
def runUtility (u : Utility) (name : Text) (args : List Text) (inherited : Entries Text) : Act Unit := do
  let input ← pending 0
  let w ← world
  let place (descriptor : Nat) : Act (Option File.Place) := do
    match ← channelAt? descriptor with
    | some (_, .file place _ _ _ _) =>
      return match w.files.get? place with
        | some (.file _) => some place
        | _ => none
    | _ => return none
  let hasOutput := (← channelAt? 1).isSome
  let outputPlace ← place 1
  let outcome : Except File.Refusal (Option File.Place) :=
    if hasOutput then .ok outputPlace else .error .badDescriptor
  let r := u ⟨name, args, inherited, w.files, input, ← place 0, outcome⟩
  if 0 < r.taken then
    match ← channelAt? 0, input with
    | some (_, .source rest), _ => consume 0 rest.length
    | _, _ => consume 0 r.taken
  changeWorld fun w => { w with files := { r.files with here := w.files.here }, clock := w.clock + r.elapsed }
  setStatus r.status
  match ← publish none r.chunks with
  | some reason =>
    discard (write 2 (name ++ ": write error: " ++ reason.reason ++ "\n"))
    setStatus 1
  | none => return ()
  if r.isEndless then throw .endless

/-- The variables and the program behind the arguments of `env`. -/
def environmentOf (inherited : Entries Text) : List Text → Except Text (Entries Text × List Text)
  | [] => .ok (inherited, [])
  | a :: rest =>
    if a = "-i" || a = "-" || a = "--ignore-environment" then environmentOf [] rest
    else if a = "-u" then
      match rest with
      | name :: rest => environmentOf (Entries.erase name inherited) rest
      | [] => .error "option requires an argument -- 'u'"
    else if a.startsWith "-u" then environmentOf (Entries.erase (a.drop 2) inherited) rest
    else if a = "--" then assigned inherited rest
    else if a.startsWith "-" then
      if a.startsWith "--" then .error ("unrecognized option '" ++ a ++ "'")
      else .error ("invalid option -- '" ++ [(a.tail.headD (CodePoint.ofChar '-'))] ++ "'")
    else assigned inherited (a :: rest)
where
  assigned (settings : Entries Text) : List Text → Except Text (Entries Text × List Text)
    | [] => .ok (settings, [])
    | a :: rest =>
      match Text.after? '=' a with
      | some value => assigned (Entries.insert (Text.before '=' a) value settings) rest
      | none => .ok (settings, a :: rest)

/-- The path of the working directory that a shell starts with: the one that it is told if that leads there. -/
def workingDirectory (told : Option Text) : Act Text := do
  let files := (← world).files
  let isRight (path : Text) : Bool :=
    path.head? = some File.slash && (files.locate path).toOption = some files.here
  return match told.filter isRight with
    | some path => path
    | none => Builtin.placeText files.here

/-- Runs a program in place of the process. Programs that start others are done with by levels. -/
def runProgram (inherited : Entries Text) : (levels : Nat) → (program name : Text) → List Text → Act Unit
  | 0, _, _, _ => setStatus 1
  | levels + 1, program, name, args => do
    if program = "sh" || program = "dash" then
      let p ← process
      let number ← freshNumber
      change fun _ => started p number name inherited
      putVariable "PPID" { (← variableAt "PPID") with value := some (Text.ofNat (p.shells.headD 0)) }
      let directory ← workingDirectory (inherited.lookup (Text.ofString "PWD"))
      putVariable "PWD" ⟨some directory, true, false⟩
      change fun p => { p with directory }
      toItsEnd inner (runShell inner args)
    else if program = "env" then
      let say (t : Text) : Act Unit := discard (write 2 (name ++ ": " ++ t ++ "\n"))
      match environmentOf inherited args with
      | .error message =>
        say (message ++ "\nTry '" ++ name ++ " --help' for more information.")
        setStatus 125
      | .ok (settings, []) =>
        discard (write 1 (settings.flatMap fun s => s.1 ++ "=" ++ s.2 ++ "\n"))
        setStatus 0
      | .ok (settings, name :: args) =>
        let path := (settings.lookup (Text.ofString "PATH")).getD usualPath
        match search (← world).files (candidates (some path) name) with
        | .ok program => runProgram settings levels program name args
        | .error r =>
          say (shownValue name ++ ": " ++ r.reason)
          setStatus (if r = .missing then 127 else 126)
    else
      match utility? program with
      | some u => runUtility u name args inherited
      | none => setStatus 0
where
  shownValue (t : Text) : Text := quotedValue t

/-- Keeps in mind that a program has been found. -/
def remember (name : Text) : Act Unit := change fun p =>
  if p.remembered.contains name || name.contains File.slash then p
  else { p with remembered := p.remembered ++ [name] }

/-- Runs the program of a name in a process of its own, or in place of one that has nothing else to do. -/
def execute (isLast : Bool) (name : Text) (args : List Text) : Act Unit := do
  let files := (← world).files
  let path ← value? "PATH"
  match search files (candidates path name) with
  | .ok program =>
    let inherited ← inherited
    remember name
    pass launchTime
    if isLast && (← process).traps.all (fun t => t.2 = []) then runProgram inner inherited 100 program name args
    else
      let ending ← apart inner (runProgram inner inherited 100 program name args)
      report ending
      setStatus ending.status
  | .error r =>
    complain (name ++ ": " ++ if isAbsent r then Text.ofString "not found" else r.reason)
    let isNamed := !name.contains File.slash
    setStatus (if isNamed || isAbsent r || r = .tooManyLinks || r = .nameTooLong then 127 else 126)

/-- Runs a program in place of the shell. -/
def replace (name : Text) (args : List Text) : Act Unit := do
  match search (← world).files (candidates (← value? "PATH") name) with
  | .ok program =>
    let inherited ← inherited
    change fun p => { p with traps := ignoring p.traps }
    runProgram inner inherited 100 program name args
    throw .exits
  | .error r =>
    complain (name ++ ": " ++ if isAbsent r then Text.ofString "not found" else r.reason)
    setStatus (if isAbsent r || r = .tooManyLinks || r = .nameTooLong then 127 else 126)
    throw .exits

/-! What a shell does itself by running other commands. -/

/-- What stands for a name of a command. -/
inductive Meaning
  | function (body : Command)
  | own (name : String)
  | program

/-- What a shell does itself whatever functions there are; a fault in it ends the shell. -/
def specialNames : List String :=
  [".", ":", "break", "continue", "eval", "exec", "exit", "export", "local", "readonly", "return", "set",
    "shift", "times", "trap", "unset"]

def otherNames : List String :=
  ["[", "alias", "bg", "cd", "chdir", "command", "echo", "false", "fg", "getopts", "hash", "jobs", "kill",
    "printf", "pwd", "read", "test", "true", "type", "ulimit", "umask", "unalias", "wait"]

def ownName? (names : List String) (name : Text) : Option String :=
  names.find? fun n => Text.ofString n = name

def meaning (withFunctions : Bool) (name : Text) : Act Meaning := do
  match ownName? specialNames name with
  | some n => return .own n
  | none =>
    let p ← process
    match if withFunctions then p.functions.lookup name else none with
    | some body => return .function body
    | none =>
      match ownName? otherNames name with
      | some n => return .own n
      | none => return .program

/-- Tells what a name of a command means, in a sentence or as it would be typed. -/
def describe (isShort : Bool) (name : Text) : Act Nat := do
  let p ← process
  if (Token.keywords.any fun k => Text.ofString k = name) then
    say (if isShort then name ++ "\n" else name ++ " is a shell keyword\n")
  else
    match p.aliases.lookup name with
    | some value =>
      say (if isShort then "alias " ++ name ++ "=" ++ quotedFor value ++ "\n"
        else name ++ " is an alias for " ++ value ++ "\n")
    | none =>
      let sentence (t : Text) : Act Nat := say (if isShort then name ++ "\n" else name ++ t ++ "\n")
      match ← meaning true name with
      | .function _ => sentence " is a shell function"
      | .own n =>
        sentence (if specialNames.contains n then " is a special shell builtin" else " is a shell builtin")
      | .program =>
        match pathOf? (← world).files (candidates (← value? "PATH") name) with
        | some path => say (if isShort then path ++ "\n" else name ++ " is " ++ path ++ "\n")
        | none =>
          if !isShort then discard (say (name ++ ": not found\n"))
          return 127

def describeAll (args : List Text) : Act Nat := do
  let mut status := 0
  for a in args do status := max status (← describe false a)
  return status

/-- Describes the first name. -/
def describeOne : Builtin := fun args => do
  let (options, names) ← optionsOf "pvV" args
  let isLong := options.contains (CodePoint.ofChar 'V')
  match names with
  | name :: _ => if isLong || options.contains (CodePoint.ofChar 'v') then describe (!isLong) name else return 0
  | [] => return 0

/-- Where a name stands in the table of programs that have been found. -/
def bucket (name : Text) : Nat :=
  (name.foldl (fun n c => n + c.val) ((name.headD (CodePoint.ofNat 0)).val * 16)) % 0x8000 % 31

/-- Looks for programs, and shows those that have been found. -/
def rememberPaths : Builtin := fun args => do
  let (options, names) ← optionsOf "rv" args
  if options.contains (CodePoint.ofChar 'r') then
    change fun p => { p with remembered := [] }
    return 0
  let candidatesOf (name : Text) : Act (List Text) := do return candidates (← value? "PATH") name
  if names.isEmpty then
    let p ← process
    let files := (← world).files
    let ordered := p.remembered.mergeSort fun a b => bucket a ≤ bucket b
    let paths ← ordered.filterMapM fun name => do return pathOf? files (← candidatesOf name)
    return ← say (paths.flatMap fun (path : Text) => (path ++ "\n" : Text))
  let mut status := 0
  for name in names do
    match ← meaning true name with
    | .program =>
      if (pathOf? (← world).files (← candidatesOf name)).isNone then
        complain (name ++ ": not found")
        status := 1
      else remember name
    | _ => pure ()
  return status

/-- Runs the script in a file; a name is looked up like one of a program. -/
def including : Builtin := fun args => do
  match args with
  | [] => return 0
  | name :: _ =>
    let files := (← world).files
    let path ← if name.contains File.slash then pure (some name)
      else do pure (pathOf? files (candidates (← value? "PATH") name))
    match path with
    | none => fail (name ++ ": not found")
    | some path =>
      match files.read path with
      | .error .isDirectory => return 0
      | .error r => fail ("cannot open " ++ path ++ ": " ++ openReason false r)
      | .ok t =>
        let acting := (← process).acting
        change fun p => { p with acting := none }
        match ← outcome (inner (.script t false)) with
        | none | some .returns => pure ()
        | some s => throw s
        change fun p => { p with acting }
        return (← process).status

/-- The builtin of a name. -/
def builtin (isTested : Bool) (name : String) : Builtin :=
  match name with
  | ":" | "true" => Builtin.succeed
  | "false" => fun _ => return 1
  | "echo" => Builtin.echo
  | "printf" => Builtin.printf
  | "test" => Builtin.condition false
  | "[" => Builtin.condition true
  | "cd" | "chdir" => Builtin.changeDirectory
  | "pwd" => Builtin.printDirectory
  | "export" => Builtin.exporting
  | "readonly" => Builtin.protecting
  | "local" => Builtin.localizing
  | "unset" => Builtin.unset
  | "set" => Builtin.set
  | "shift" => Builtin.shift
  | "read" => Builtin.read
  | "getopts" => Builtin.nextOption
  | "alias" => Builtin.aliasing
  | "unalias" => Builtin.unaliasing
  | "wait" => Builtin.waiting
  | "bg" | "fg" => Builtin.move
  | "jobs" => Builtin.listJobs
  | "trap" => Builtin.trapping
  | "break" => Builtin.leaving .breaks
  | "continue" => Builtin.leaving .continues
  | "return" => Builtin.ending .returns
  | "exit" => Builtin.ending .exits
  | "umask" => Builtin.mask
  | "ulimit" => Builtin.limits
  | "times" => Builtin.times
  | "type" => describeAll
  | "command" => describeOne
  | "hash" => rememberPaths
  | "kill" => Builtin.sending
  | "." => including inner
  | "eval" => fun args => do
    if args.isEmpty then return 0
    inner (.script (Text.joined " " args) isTested)
    return (← process).status
  | _ => fun args => do
    let (_, args) ← optionsOf "" args
    match args with
    | [] => return 0
    | name :: args =>
      replace inner name args
      return 0

/-- Acts as a shell does itself. A fault ends the shell only where it is special. -/
def act (isSpecial isTested : Bool) (name : String) (shown : Text) (args : List Text) : Act Unit := do
  let before := (← process).acting
  change fun p => { p with acting := some shown }
  let stop ← outcome do setStatus (← builtin inner isTested name args)
  change fun p => { p with acting := before }
  match stop with
  | none => return ()
  | some .fails => if isSpecial then throw .fails
  | some s => throw s

/-- Calls a function. -/
def call (body : Command) (isTested : Bool) (args : List Text) : Act Unit := do
  let before ← process
  change fun p => { p with arguments := args, loops := 0, optionOffset := 0 }
  let stop ← outcome (inner (.command body isTested))
  change fun p => { p with
    arguments := before.arguments, loops := before.loops, optionOffset := before.optionOffset }
  match stop with
  | none | some .returns => return ()
  | some s => throw s

/-! Commands without keywords. -/

/-- How a command is found: what it means, whether the shell treats it as special, and how many fields stand
in front of its name. -/
structure Found where
  meaning : Meaning
  isSpecial : Bool
  skipped : Nat

/-- What is left behind options of `command` that leave it what it is, and whether there are only such. -/
def plainOptions : List Text → List Text × Bool
  | [] => ([], true)
  | a :: rest =>
    if a = "--" then (rest, true)
    else if a.startsWith "-" && a.length > 1 then
      if a.tail.all (fun (c : CodePoint) => c = 'p') then plainOptions rest else (a :: rest, false)
    else (a :: rest, true)

/-- What a list of fields runs; more words are needed if only `command` and options stand there. -/
def find (hasMore : Bool) : (bound : Nat) → (isFirst : Bool) → List Text → Act (Option Found)
  | 0, _, _ => return none
  | bound + 1, isFirst, fs => do
    match fs with
    | [] => return none
    | name :: rest =>
      match ← meaning isFirst name with
      | .own "command" =>
        let (behind, isPlain) := plainOptions rest
        if !isPlain then return some ⟨.own "command", false, 0⟩
        else if behind.isEmpty then return if hasMore then none else some ⟨.own "command", false, 0⟩
        else
          match ← find hasMore bound false behind with
          | none => return none
          | some f =>
            return some { f with isSpecial := false, skipped := f.skipped + (fs.length - behind.length) }
      | m =>
        let isSpecial := match m with
          | .own n => specialNames.contains n
          | _ => false
        return some ⟨m, isSpecial, 0⟩

/-- The fields of words, up to the first ones that say what is run; and the words that are left. -/
def leadingFields : (ws : List Word) → List Text → Act (List Text × Option Found × List Word)
  | [], fs => do return (fs, ← find false (fs.length + 1) true fs, [])
  | w :: ws, fs => do
    match ← find true (fs.length + 1) true fs with
    | some f => return (fs, some f, w :: ws)
    | none => leadingFields ws (fs ++ (← fields output w))

/-- What sets variables with its arguments. -/
def setsVariables : Meaning → Bool
  | .own n => ["export", "readonly", "local", "alias"].contains n
  | _ => false

/-- The name and the value of a word that sets a variable. -/
def assignment (w : Word) : Act (Text × Text) := do
  let t ← textOf output .setting w
  return (Text.before '=' t, (Text.after? '=' t).getD [])

/-- Shows a command before it is run, if that is wanted. -/
def trace (assigned : List (Text × Text)) (fs : List Text) (descriptors : List (Nat × Nat)) : Act Unit := do
  if !(← hasOption 'x') then return ()
  let redirected := (← process).descriptors
  change fun p => { p with descriptors }
  let lead := (← value? "PS4").getD []
  let shown : List Text := assigned.map (fun (a : Text × Text) => (a.1 ++ "=" ++ a.2 : Text)) ++ fs
  sayError (lead ++ Text.joined " " shown ++ "\n")
  change fun p => { p with descriptors := redirected }

/-- Runs what a list of fields means. -/
def run (found : Found) (isTested isLast : Bool) (fs : List Text) : Act Unit := do
  let fs := fs.drop found.skipped
  match found.meaning with
  | .function body => call inner body isTested fs.tail
  | .own name => act inner found.isSpecial isTested name (fs.headD []) fs.tail
  | .program => execute inner isLast (fs.headD []) fs.tail

/-- Runs a command without keywords: words are replaced, redirections made, variables set, and then the
command is looked up. -/
def simple (line : Nat) (isTested isLast : Bool) (assignments words : List Word) (redirects : List Redirect) :
    Act Unit := do
  change fun p => { p with line, substituted := 0 }
  let (fs, found, rest) ← leadingFields output words []
  let sets := found.any fun f => setsVariables f.meaning
  let more ← rest.mapM fun w =>
    if sets && Parse.isAssignment w then do return [← textOf output .setting w] else fields output w
  let fs := fs ++ more.flatten
  let before := (← process).descriptors
  let isSpecial := found.any Found.isSpecial
  let staysOpen := isSpecial && fs.head? = some (Text.ofString "exec")
  let done : Act Unit := if staysOpen then pure () else restore before redirects
  andAfter (do
    if !(← redirectAll output (← resolve output redirects)) then
      restore before redirects
      setStatus 2
      if isSpecial then throw .fails
    else
      let isLasting := found.isNone || isSpecial
      if !isLasting then change fun p => { p with locals := [] :: p.locals }
      andAfter (do
        let assigned ← assignments.mapM fun w => do
          let (name, value) ← assignment output w
          if isLasting then assign name (some value)
          else
            Builtin.keep name
            assign name (some value)
          if !isLasting || (staysOpen && fs.length > 1) then
            putVariable name { (← variableAt name) with isExported := true }
          return (name, value)
        trace assigned fs before
        match found with
        | none => setStatus (← process).substituted
        | some f => run inner f isTested isLast fs) (if isLasting then pure () else unwind)) done
where
  /-- Gives variables back that were kept. -/
  unwind : Act Unit := do
    match (← process).locals with
    | [] => return ()
    | frame :: rest =>
      change fun p => { p with
        locals := rest
        settings := frame.foldl (fun settings (name, v) =>
          if v.value.isNone && !v.isExported && !v.isReadOnly then Entries.erase name settings
          else Entries.insert name v settings) p.settings }

/-! Other commands. -/

/-- Runs the body of a loop, and tells whether the loop goes on. -/
def round (a : Act Unit) : Act Bool := do
  match ← outcome a with
  | none => return true
  | some (.breaks n) => if n ≤ 1 then return false else throw (.breaks (n - 1))
  | some (.continues n) => if n ≤ 1 then return true else throw (.continues (n - 1))
  | some s => throw s

/-- Repeats rounds of a loop as long as they say so. -/
def rounds (a : Act Bool) : (bound : Nat) → Act Unit
  | 0 => throw .endless
  | bound + 1 => do
    step
    if ← a then rounds a bound

def inLoop (a : Act Unit) : Act Unit := do
  let before := (← process).loops
  change fun p => { p with loops := before + 1 }
  andAfter a (change fun p => { p with loops := before })

def loop (isUntil isTested : Bool) (test body : Command) : Act Unit := inLoop do
  -- The status of the last round, which a test that ends the loop leaves aside.
  let once (status : Nat) : Act (Option Nat) := do
    let stays ← outcome (inner (.command test true))
    match stays with
    | some (.breaks n) => if n ≤ 1 then return none else throw (.breaks (n - 1))
    | some (.continues n) => if n ≤ 1 then return some status else throw (.continues (n - 1))
    | some s => throw s
    | none =>
      if ((← process).status = 0) = isUntil then
        setStatus status
        return none
      if ← round (inner (.command body isTested)) then return some (← process).status
      return none
  let rec go : (bound : Nat) → Nat → Act Unit
    | 0, _ => throw .endless
    | bound + 1, status => do
      step
      match ← once status with
      | some status => go bound status
      | none => return ()
  go (patience + 1) 0

def each (isTested : Bool) (name : Text) (body : Command) (values : List Text) : Act Unit := inLoop do
  if values.isEmpty then setStatus 0
  let rec go : List Text → Act Unit
    | [] => return ()
    | v :: vs => do
      step
      assign name (some v)
      if ← round (inner (.command body isTested)) then go vs
  go values

/-- The first case with a pattern that matches. -/
def choose (t : Text) : List (List Word × Command) → Act (Option Command)
  | [] => return none
  | (ps, body) :: rest => do
    if ← matchesAny ps then return some body else choose t rest
where
  matchesAny : List Word → Act Bool
    | [] => return false
    | p :: ps => do
      if Glob.isMatch (← patternOf output p) t then return true else matchesAny ps

/-- Runs the commands of a pipeline, each with what the one before it printed. They all start at once. -/
def pipeline (isTested : Bool) (start : Nat) : (source : Option Nat) → List Command → Act Unit
  | _, [] => return ()
  | source, c :: rest => do
    let steps := (← world).steps
    let reading : Act Unit := match source with
      | some i => connect 0 (some i)
      | none => pure ()
    pass launchTime
    if rest.isEmpty then
      let ending ← apart inner do
        reading
        inner (.command c isTested)
      report ending
      setStatus ending.status
    else
      let i ← addChannel (.sink [])
      let stop ← outcome (do
        let ending ← apart inner do
          reading
          connect 1 (some i)
          inner (.command c isTested)
        report ending)
      match stop with
      | none => pure ()
      | some .endless => changeWorld fun w => { w with steps }
      | some s => throw s
      let clock := (← world).clock
      let ending := if stop = some .endless then start else clock
      let written := match (← world).channels[i]? with
        | some (.sink written) => inOrder written
        | _ => []
      setChannel i (.source written)
      changeWorld fun w => { w with clock := start }
      pipeline isTested start (some i) rest
      changeWorld fun w => { w with clock := max w.clock ending }
      if stop = some .endless then
        match (← world).channels[i]? with
        | some (.source []) => throw .endless
        | _ => return ()

/-- Starts an action beside what follows. It may never end. -/
def beside (isRow : Bool) (a : Act Unit) : Act Unit := do
  let before ← world
  let start := before.clock
  let lastWaited := (← process).lastWaited
  let number ← freshNumber
  let empty ← addChannel (.source [])
  let holdsOutput := (← process).descriptors.any fun d => d.2 = 0
  let arrived := (← process).arrived
  let run : Act (Option Ending) := fun m =>
    match apart inner (do
      change fun p => { p with number }
      connect 0 (some empty)
      pass forkTime
      a) m with
    | (.ok ending, m) => (.ok (some ending), m)
    | (.error .endless, n) => (.ok none, { n with process := m.process })
    | (.error s, m) => (.error s, m)
  let ending ← run
  let w ← world
  let finish := ending.map fun _ => w.clock
  let own ← ownNumber
  changeWorld fun w => { w with
    clock := start
    steps := if finish.isSome then w.steps else before.steps
    holders := if holdsOutput then (number, finish) :: w.holders else w.holders
    sent := (finish.toList.map fun t => (t, own, 17)) ++ w.sent }
  change fun p =>
    let kept := p.jobs.filter fun j => !j.isAwaited
    let place := ((List.range (kept.length + 1)).find? fun n => !kept.any fun j => j.place = n + 1).getD 0 + 1
    { p with
      arrived, lastWaited, background := some number
      jobs := kept ++ [⟨place, number, start, finish, ending.getD ⟨0, none⟩, isRow,
        w.started ≤ before.started + 2, false⟩] }
  setStatus 0

/-- Ends the shell behind a fault, if that is wanted and nobody looks at the fault. -/
def checked (isTested : Bool) (a : Act Unit) : Act Unit := do
  a
  if (← process).status ≠ 0 && !isTested && (← hasOption 'e') then throw .exits

/-- Runs a command, the last one of its process if so. -/
def evaluate (isTested isLast : Bool) (c : Command) : Act Unit := do
  let last (c : Command) (isTested : Bool) : Act Unit := do
    change fun p => { p with isLast }
    inner (.command c isTested)
  match c with
  | .nothing => return ()
  | .simple line assignments words redirects =>
    checked isTested (simple output inner line isTested isLast assignments words redirects)
  | .redirected line c redirects =>
    change fun p => { p with line }
    let before := (← process).descriptors
    andAfter (do
      if ← redirectAll output (← resolve output redirects) then last c isTested
      else checked isTested (setStatus 2)) (restore before redirects)
  | .subshell line c redirects =>
    change fun p => { p with line }
    checked isTested do
      let targets ← resolve output redirects
      pass launchTime
      let body : Act Unit := do
        change fun p => { p with isLast := false }
        if ← redirectAll output targets then
          change fun p => { p with isLast := true }
          inner (.command c isTested)
        else setStatus 2
      if isLast && (← process).traps.all (fun t => t.2 = []) then body
      else
        let ending ← apart inner body
        report ending
        setStatus ending.status
  | .background c => beside inner false (inner (.command c isTested))
  | .pipeline true cs => beside inner true do pipeline inner isTested (← world).clock none cs
  | .pipeline false cs => checked isTested do pipeline inner isTested (← world).clock none cs
  | .both a b =>
    inner (.command a true)
    if (← process).status = 0 then last b isTested
  | .either a b =>
    inner (.command a true)
    if (← process).status ≠ 0 then last b isTested
  | .sequence a b =>
    inner (.command a isTested)
    last b isTested
  | .negated c =>
    inner (.command c true)
    setStatus (if (← process).status = 0 then 1 else 0)
  | .branch test yes no =>
    inner (.command test true)
    if (← process).status = 0 then last yes isTested
    else
      match no with
      | .nothing => setStatus 0
      | no => last no isTested
  | .loop isUntil test body => loop inner isUntil isTested test body
  | .each line name words body =>
    change fun p => { p with line }
    each inner isTested name body (← allFields output words)
  | .choice line word cases =>
    change fun p => { p with line }
    let t ← textOf output .text word
    match ← choose output t cases with
    | some .nothing | none => setStatus 0
    | some body => last body isTested
  | .definition _ name body =>
    change fun p => { p with functions := Entries.insert name body p.functions }
    setStatus 0

def command (isTested : Bool) (c : Command) : Act Unit := do
  step
  if ← hasOption 'n' then return ()
  let isLast := (← process).isLast
  change fun p => { p with isLast := false }
  evaluate output inner isTested isLast c
  deliver inner

end Act

/-- Runs tasks with levels below them. -/
def runner : (levels : Nat) → Runner
  | 0, _ => Act.fail "out of space"
  | levels + 1, .command c isTested =>
    Act.command (Act.substitution (runner levels)) (runner levels) isTested c
  | levels + 1, .script t isTested => Act.runScript (runner levels) t isTested

end LspEndpoint.Program.Shell
