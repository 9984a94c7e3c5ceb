import LspEndpoint.Program.Condition
import LspEndpoint.Program.Format
import LspEndpoint.Program.Search
import LspEndpoint.Program.Shell.Expansion

/-!
What a shell does itself, apart from what runs other commands. Each action takes its arguments and gives
its status.
-/
namespace LspEndpoint.Program.Shell

abbrev Builtin := List Text → Act Nat

/-- The escapes that a shell knows itself. -/
def ownEscapes : Escapes := ⟨true, true, false, false⟩

/-- A text between single quotation marks, and the marks in it between double ones. -/
def quotedFor (t : Text) : Text := "'" ++ go false t
where
  go : (inDouble : Bool) → Text → Text
    | inDouble, [] => if inDouble then "\"" else "'"
    | inDouble, c :: t =>
      if c = '\'' then (if inDouble then [c] else "'\"'") ++ go true t
      else if inDouble then "\"'" ++ [c] ++ go false t
      else c :: go false t

/-- The options, in the order in which they are listed, with their names. -/
def optionNames : List (Char × String) :=
  [('e', "errexit"), ('f', "noglob"), ('I', "ignoreeof"), ('i', "interactive"), ('m', "monitor"),
    ('n', "noexec"), ('s', "stdin"), ('x', "xtrace"), ('v', "verbose"), ('V', "vi"), ('E', "emacs"),
    ('C', "noclobber"), ('a', "allexport"), ('b', "notify"), ('u', "nounset"), ('p', "privileged")]

/-- The names of options that have no letter. -/
def moreOptionNames : List String := ["nolog", "debug"]

namespace Act

/-- Prints as what a shell does itself: nothing else is done about output that cannot be printed. -/
def say (t : Text) : Act Nat := do
  if t = [] then return 0
  match ← write 1 t with
  | .ok () => return 0
  | .error _ =>
    complain (((← process).acting.getD []) ++ ": I/O error")
    return 1

def sayError (t : Text) : Act Unit := do discard (write 2 t)

/-- The number that an argument is. -/
def number (t : Text) : Act Nat := do
  match Condition.number t with
  | .ok n => if n < 0 || 2147483647 < n then fail ("Illegal number: " ++ t) else return n.toNat
  | .error message => fail message

/-- The options in front of the arguments, and the arguments behind them. -/
def optionsOf (known : String) : List Text → Act (List CodePoint × List Text)
  | [] => return ([], [])
  | a :: rest => do
    match a with
    | dash :: c :: more =>
      if dash ≠ '-' then return ([], a :: rest)
      if c :: more = Text.ofString "-" then return ([], rest)
      match (c :: more).find? fun c => !(Text.ofString known).contains c with
      | some c => fail ("Illegal option -" ++ [c])
      | none =>
        let (options, operands) ← optionsOf known rest
        return (c :: more ++ options, operands)
    | _ => return ([], a :: rest)

end Act

namespace Builtin

open Act

def succeed : Builtin := fun _ => return 0

def echo : Builtin := fun args => do
  let (newline, args) := match args with
    | flag :: rest => if flag = "-n" then (false, rest) else (true, flag :: rest)
    | [] => (true, [])
  let (t, ending) := unescape ownEscapes (Text.joined " " args)
  say (if newline && ending = .goesOn then t ++ "\n" else t)

def printf : Builtin := fun args => do
  let (_, args) ← optionsOf "" args
  match args with
  | [] => fail "usage: printf format [arg ...]"
  | text :: args =>
    let p ← process
    let who := p.zero ++ ": " ++ Text.ofNat p.line ++ ": printf: "
    let (chunks, status) := print ⟨⟨false, true, false, false⟩, .double, who, true, false⟩ text args
    chunks.forM fun c => if c.isError then sayError c.text else pure ()
    let failed ← say ((chunks.filter fun c => !c.isError).flatMap Chunk.text)
    return max status failed

/-- A condition; in brackets the last argument closes it. -/
def condition (inBrackets : Bool) : Builtin := fun args => do
  let args ← if inBrackets then
      if args.getLast? = some (Text.ofString "]") then pure args.dropLast else fail "missing ]"
    else pure args
  match Condition.outcome (← world).files args with
  | .ok b => return if b then 0 else 1
  | .error message => fail message

/-! Directories. -/

/-- A path followed step by step without looking at the files. -/
def followed (directory path : Text) : Text :=
  let start := if path.head? = some File.slash then [] else File.steps directory
  let steps := (Text.pieces File.slash path).foldl (fun (steps : List Text) (s : Text) =>
    if s = "" || s = "." then steps
    else if s = ".." then steps.dropLast
    else steps ++ [s]) start
  let root : Text := if path.startsWith "//" && !path.startsWith "///" then "//" else "/"
  root ++ Text.joined [File.slash] steps

def placeText (place : File.Place) : Text := "/" ++ Text.joined [File.slash] place

/-- Goes to a directory, if it is one, and remembers the one before. -/
def enter (isPhysical : Bool) (path : Text) : Act Bool := do
  let files := (← world).files
  match files.locate path with
  | .error _ => return false
  | .ok place =>
    if !files.isDirectory path then return false
    let before := (← process).directory
    let directory := if isPhysical then placeText place else followed before path
    changeWorld fun w => { w with files := { w.files with here := place } }
    change fun p => { p with directory }
    putVariable "OLDPWD" ⟨some before, true, false⟩
    putVariable "PWD" ⟨some directory, true, false⟩
    return true

def changeDirectory : Builtin := fun args => do
  let (options, args) ← optionsOf "LP" args
  let isPhysical := options.getLast? = some (CodePoint.ofChar 'P')
  let target ← match args with
    | [] => do pure ((← value? "HOME").getD [])
    | t :: _ => pure t
  let isBack := target = "-"
  let target ← if isBack then do pure ((← value? "OLDPWD").getD []) else pure target
  let target : Text := if target = [] then "." else target
  let isFixed := target.head? = some File.slash || target = "." || target = ".." ||
    target.startsWith "./" || target.startsWith "../"
  let searched ← if isFixed then pure [] else do pure (Text.pieces ':' ((← value? "CDPATH").getD []))
  let visit : List Text → Act (Option Nat) := fun ds => ds.foldlM (fun (done : Option Nat) (d : Text) => do
    match done with
    | some n => return some n
    | none =>
      if d = [] then return none
      if ← enter isPhysical (d ++ "/" ++ target) then
        return some (← say ((← process).directory ++ "\n"))
      return none) none
  match ← visit searched with
  | some n => return n
  | none =>
    if ← enter isPhysical target then
      if isBack then say ((← process).directory ++ "\n") else return 0
    else fail ("can't cd to " ++ target)

def printDirectory : Builtin := fun args => do
  let (options, _) ← optionsOf "LP" args
  if options.getLast? = some (CodePoint.ofChar 'P') then
    say (placeText (← world).files.here ++ "\n")
  else say ((← process).directory ++ "\n")

/-! Variables. -/

/-- The settings as lines that set them again. -/
def listing (lead : Text) (keep : Variable → Bool) : Act Text := do
  let all := ((← process).settings.filter fun s => keep s.2).mergeSort fun a b => Text.le a.1 b.1
  return all.flatMap fun (name, v) =>
    let value : Text := match v.value with
      | some t => "=" ++ quotedFor t
      | none => []
    lead ++ name ++ value ++ "\n"

/-- The name and the value in an argument. -/
def setting (arg : Text) : Text × Option Text :=
  (Text.before '=' arg, Text.after? '=' arg)

def checkName (name : Text) : Act Unit := do
  if !isName name then fail (name ++ ": bad variable name")

/-- Marks variables, and sets those that have a value. Behind an option that asks for all of them nothing else
is looked at. -/
def marking (lead : Text) (mark : Variable → Variable) (keep : Variable → Bool) : Builtin := fun args => do
  if (args.headD []).startsWith "-p" then return ← say (← listing (lead ++ " ") keep)
  let (_, args) ← optionsOf "" args
  match args with
  | [] => say (← listing (lead ++ " ") keep)
  | args =>
    args.forM fun a => do
      let (name, value) := setting a
      checkName name
      match value with
      | some t => assign name (some t)
      | none => pure ()
      putVariable name (mark (← variableAt name))
    return 0

def exporting : Builtin := marking "export" (fun v => { v with isExported := true }) Variable.isExported

def protecting : Builtin := marking "readonly" (fun v => { v with isReadOnly := true }) Variable.isReadOnly

/-- Keeps a variable to give it back later. -/
def keep (name : Text) : Act Unit := do
  let v ← variableAt name
  change fun p => match p.locals with
    | [] => p
    | frame :: rest =>
      if (frame.lookup name).isSome then p else { p with locals := ((name, v) :: frame) :: rest }

def localizing : Builtin := fun args => do
  if (← process).locals.isEmpty then fail "not in a function"
  args.forM fun a => do
    let (name, value) := setting a
    checkName name
    keep name
    match value with
    | some t => assign name (some t)
    | none => pure ()
  return 0

def unset : Builtin := fun args => do
  let (options, names) ← optionsOf "fv" args
  names.forM fun name => do
    if options.getLast? = some (CodePoint.ofChar 'f') then
      change fun p => { p with functions := Entries.erase name p.functions }
    else
      checkName name
      if (← variableAt name).isReadOnly then fail (name ++ ": is read only")
      change fun p => { p with settings := Entries.erase name p.settings }
  return 0

def setOption (letter : CodePoint) (isOn : Bool) : Act Unit := do
  if !(optionNames.any fun o => CodePoint.ofChar o.1 = letter) then fail ("Illegal option -" ++ [letter])
  change fun p =>
    let set : Text := if isOn then letter :: p.options else p.options.filter (· ≠ letter)
    { p with options := (optionNames.reverse.map fun o => CodePoint.ofChar o.1).filter (set.contains ·) }

def setNamedOption (name : Text) (isOn : Bool) : Act Unit := do
  match optionNames.find? fun o => Text.ofString o.2 = name with
  | some o => setOption o.1 isOn
  | none =>
    if !(moreOptionNames.any fun o => Text.ofString o = name) then
      fail ("Illegal option -o " ++ name)

/-- What `-o` says about all options: as a table, or as commands. At the start all of them count as on. -/
def optionTable (atStart isOn : Bool) : Act Text := do
  let options := (← process).options
  let rows := optionNames.map (fun o => (o.2, atStart || options.contains (CodePoint.ofChar o.1))) ++
    moreOptionNames.map fun o => (o, atStart)
  let line (r : String × Bool) : Text :=
    let name := Text.ofString r.1
    if isOn then
      name ++ List.replicate (16 - name.length) (CodePoint.ofChar ' ') ++ (if r.2 then "on" else "off") ++ "\n"
    else "set " ++ (if r.2 then "-o " else "+o ") ++ name ++ "\n"
  return (if isOn then Text.ofString "Current option settings\n" else []) ++ rows.flatMap line

/-- Turns the control of jobs off again, which would need a terminal. -/
def withoutJobControl : Act Unit := do
  if (← process).options.contains (CodePoint.ofChar 'm') then
    complain "can't access tty; job control turned off"
    setOption 'm' false

/-- Options in front of arguments. A script may stand behind them if `c` is one of them. -/
def readOptions (atStart : Bool) : List Text → Act (Bool × Option (List Text))
  | [] => return (false, if atStart then some [] else none)
  | a :: rest => do
    match a with
    | [] => return (false, some (a :: rest))
    | sign :: letters =>
      let isOn := sign = '-'
      if !isOn && sign ≠ '+' then return (false, some (a :: rest))
      if isOn && letters = [] then
        if !atStart then
          setOption 'x' false
          setOption 'v' false
        return (false, if rest.isEmpty && !atStart then none else some rest)
      if isOn && letters = Text.ofString "-" then return (false, some rest)
      let named := letters.contains (CodePoint.ofChar 'o')
      (letters.filter fun (c : CodePoint) => c ≠ 'o' && !(atStart && (c = 'c' || c = 'l'))).forM
        fun c => setOption c isOn
      let isScript := atStart && letters.contains (CodePoint.ofChar 'c')
      match named, rest with
      | false, rest =>
        let (more, args) ← readOptions atStart rest
        return (isScript || more, args)
      | true, [] =>
        discard (say (← optionTable atStart isOn))
        return (isScript, if atStart then some [] else none)
      | true, name :: rest =>
        setNamedOption name isOn
        let (more, args) ← readOptions atStart rest
        return (isScript || more, args)

def set : Builtin := fun args => do
  if args.isEmpty then return ← say (← listing [] fun v => v.value.isSome)
  let (_, rest) ← readOptions false args
  withoutJobControl
  match rest with
  | some args => change fun p => { p with arguments := args, optionOffset := 0 }
  | none => pure ()
  return 0

def shift : Builtin := fun args => do
  let n ← match args with
    | [] => pure 1
    | a :: _ => number a
  if (← process).arguments.length < n then fail "can't shift that many"
  change fun p => { p with arguments := p.arguments.drop n }
  return 0

/-! Input. -/

/-- A line that has been read: its pieces, of which those behind a backslash are not split, and whether
a line end was there. -/
def readLine (isRaw : Bool) (t : Text) : List Piece × Nat × Bool := go [] 0 t
where
  go (done : List Atom) (taken : Nat) : Text → List Piece × Nat × Bool
    | [] => ([⟨done.reverse, .atSeparators⟩], taken, false)
    | [c] =>
      if c.val = 0x0A then ([⟨done.reverse, .atSeparators⟩], taken + 1, true)
      else if c = '\\' && !isRaw then ([⟨done.reverse, .atSeparators⟩], taken + 1, false)
      else ([⟨(.octet c false :: done).reverse, .atSeparators⟩], taken + 1, false)
    | c :: d :: t =>
      if c.val = 0x0A then ([⟨done.reverse, .atSeparators⟩], taken + 1, true)
      else if c = '\\' && !isRaw then
        let (rest, n, isWhole) := go [] (taken + 2) t
        let kept : List Piece := if d.val = 0x0A then [] else [⟨[.octet d true], .never⟩]
        (⟨done.reverse, .atSeparators⟩ :: kept ++ rest, n, isWhole)
      else go (.octet c false :: done) (taken + 1) (d :: t)

def read : Builtin := fun args => do
  let (options, names) ← optionsOf' args
  if names.isEmpty then fail "arg count"
  let t := (← pending 0).toOption.getD []
  let (ps, taken, isWhole) := readLine (options.contains (CodePoint.ofChar 'r')) t
  consume 0 taken
  let found := Fields.ofLimited (← separators) names.length ps
  assignAll names (found.map (·.filterMap Atom.octet?))
  return if isWhole then 0 else 1
where
  assignAll : List Text → List Text → Act Unit
    | [], _ => return ()
    | name :: names, values => do
      checkName name
      assign name (some (values.headD []))
      assignAll names values.tail
  optionsOf' : List Text → Act (List CodePoint × List Text)
    | a :: b :: rest =>
      if a = "-p" then optionsOf "r" rest
      else if a.startsWith "-p" then optionsOf "r" (b :: rest)
      else optionsOf "r" (a :: b :: rest)
    | args => optionsOf "r" args

/-- The next option among arguments. -/
def nextOption : Builtin := fun args => do
  match args with
  | spec :: name :: given =>
    let p ← process
    let args := if given.isEmpty then p.arguments else given
    let index ← match ← value? "OPTIND" with
      | some t => match Condition.number t with
        | .ok n => pure (if n < 1 then 1 else n.toNat)
        | .error _ => pure 1
      | none => pure 1
    let offset := p.optionOffset
    let isSilent := spec.head? = some (CodePoint.ofChar ':')
    let before := (args[index - 2]?).getD []
    let inWord := 1 < index && 0 < offset && offset < before.length
    let word := if inWord then before else (args[index - 1]?).getD []
    let at_ := if inWord then offset else 1
    let index := if inWord then index else index + 1
    let isOption := inWord || (2 ≤ word.length && word.head? = some (CodePoint.ofChar '-'))
    let finish (letter : Text) (index offset : Nat) (status : Nat) : Act Nat := do
      assign "OPTIND" (some (Text.ofNat index))
      checkName name
      assign name (some letter)
      change fun p => { p with optionOffset := offset }
      return status
    if !isOption then finish "?" (index - 1) 0 1
    else if !inWord && word = Text.ofString "--" then finish "?" index 0 1
    else
      let c := (word[at_]?).getD (CodePoint.ofChar '?')
      let behind := word.drop (at_ + 1)
      let next := if behind.isEmpty then 0 else at_ + 1
      let known := spec.dropWhile (· ≠ c)
      if known.isEmpty || c = ':' then
        if isSilent then assign "OPTARG" (some [c])
        else
          sayError ("Illegal option -" ++ [c] ++ "\n")
          change fun p => { p with settings := Entries.erase "OPTARG" p.settings }
        finish "?" index next 0
      else if known.tail.head? = some (CodePoint.ofChar ':') then
        if !behind.isEmpty then
          assign "OPTARG" (some behind)
          finish [c] index 0 0
        else
          match args[index - 1]? with
          | some value =>
            assign "OPTARG" (some value)
            finish [c] (index + 1) 0 0
          | none =>
            if isSilent then
              assign "OPTARG" (some [c])
              finish ":" index 0 0
            else
              sayError ("No arg for -" ++ [c] ++ " option\n")
              change fun p => { p with settings := Entries.erase "OPTARG" p.settings }
              finish "?" index 0 0
      else
        assign "OPTARG" (some [])
        finish [c] index next 0
  | _ => fail "Usage: getopts optstring var [arg...]"

/-! Names of commands. -/

def aliasing : Builtin := fun args => do
  let line (a : Text × Text) : Text := a.1 ++ "=" ++ quotedFor a.2 ++ "\n"
  if args.isEmpty then return ← say ((← process).aliases.flatMap line)
  let mut status := 0
  for a in args do
    match setting a with
    | (name, some value) => change fun p => { p with aliases := Entries.insert name value p.aliases }
    | (name, none) =>
      match (← process).aliases.lookup name with
      | some value => status := max status (← say (line (name, value)))
      | none =>
        sayError ("alias: " ++ name ++ " not found\n")
        status := 1
  return status

def unaliasing : Builtin := fun args => do
  let (options, names) ← optionsOf "a" args
  if !options.isEmpty then
    change fun p => { p with aliases := [] }
    return 0
  let mut status := 0
  for name in names do
    if ((← process).aliases.lookup name).isNone then
      sayError ("unalias: " ++ name ++ " not found\n")
      status := 1
    change fun p => { p with aliases := Entries.erase name p.aliases }
  return status

/-- Leaves loops. -/
def leaving (stop : Nat → Stop) : Builtin := fun args => do
  let n ← match args with
    | [] => pure 1
    | a :: _ => do
      let n ← number a
      if n = 0 then fail ("Illegal number: " ++ a)
      pure n
  let loops := (← process).loops
  setStatus 0
  if loops = 0 then return 0
  throw (stop (min n loops))

/-- Ends a function or a shell with a status. In a trap, the status that a shell ends with is the one before
the trap unless another one is given. -/
def ending (stop : Stop) : Builtin := fun args => do
  match args with
  | [] =>
    match (← process).interrupted with
    | some status => if stop = .exits then setStatus status
    | none => pure ()
  | a :: _ => setStatus ((← number a) % 256)
  throw stop

/-- Shows or sets what may be done with new files. -/
def mask : Builtin := fun args => do
  let (options, args) ← optionsOf "S" args
  let permissions := (← process).permissions
  match args with
  | [] => say (if options.isEmpty then permissions.withheld ++ "\n" else permissions.given ++ "\n")
  | a :: _ =>
    let isNumber := (a.headD (CodePoint.ofChar '+')).isDigit
    match if isNumber then Permissions.ofWithheld? a else permissions.changed? a with
    | some permissions =>
      change fun p => { p with permissions }
      return 0
    | none => fail ((if isNumber then "Illegal number: " else "Illegal mode: " : Text) ++ a)

/-- Shows or sets limits. -/
def limits : Builtin := fun args => do
  let (options, args) ← optionsOf "HSatfdscmlpnvwr" args
  let limits := (← process).limits
  let side := options.reverse.find? fun (c : CodePoint) => c = 'H' || c = 'S'
  let isMost := side = some (CodePoint.ofChar 'H')
  let isCurrent := side = some (CodePoint.ofChar 'S')
  let showAll := options.contains (CodePoint.ofChar 'a')
  let chosen := options.reverse.find? fun (c : CodePoint) => c ≠ 'H' && c ≠ 'S' && c ≠ 'a'
  let shown (r : Resource) : Text :=
    let l := limits.get r.letter
    Limit.text r (if isMost then l.most else l.current) ++ "\n"
  let resource? := resources.find? fun r => CodePoint.ofChar r.letter = chosen.getD (CodePoint.ofChar 'f')
  match args with
  | [] =>
    if showAll then
      say (resources.flatMap fun r =>
        Text.ofString r.name ++ List.replicate (21 - r.name.length) (CodePoint.ofChar ' ') ++ shown r)
    else
      match resource? with
      | some r => say (shown r)
      | none => return 0
  | a :: rest =>
    if showAll || rest ≠ [] then fail "too many arguments"
    let value ← if a = "unlimited" then pure none
      else if a.all CodePoint.isDigit then pure (some (decimalValue a))
      else fail "bad number"
    match resource? with
    | some r =>
      let value := value.map fun n => n * r.unit
      let old := limits.get r.letter
      let new : Limit := ⟨if isMost then old.current else value, if isCurrent then old.most else value⟩
      match Limit.objection? old new with
      | some reason => fail (Text.ofString ("error setting limit (" ++ reason ++ ")"))
      | none => pure ()
      change fun p => { p with limits := limits.set r.letter new }
      return 0
    | none => return 0

def times : Builtin := fun _ => say "0m0.000000s 0m0.000000s\n0m0.000000s 0m0.000000s\n"

end Builtin

end LspEndpoint.Program.Shell
