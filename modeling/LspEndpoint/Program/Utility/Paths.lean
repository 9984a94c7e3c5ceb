import LspEndpoint.Program.Option
import LspEndpoint.Program.Quoting

/-!
Programs about paths, directories and the variables that programs inherit.
-/
namespace LspEndpoint.Program

/-- The path without slashes at its end; a path of slashes alone is left as one of them. -/
def withoutSlashes (path : Text) : Text :=
  match (path.reverse.dropWhile (· = File.slash)).reverse with
  | [] => path.take 1
  | kept => kept

/-- The last step of a path. -/
def lastStep (path : Text) : Text :=
  let kept := withoutSlashes path
  if kept = [File.slash] then kept else Text.afterLast File.slash kept

/-- A name without what it ends in, unless it is nothing else. -/
def withoutSuffix (suffix name : Text) : Text :=
  if suffix.length < name.length && suffix.isSuffixOf name then name.take (name.length - suffix.length)
  else name

/-- The path of the directory that a path leads into last. -/
def directoryOf (path : Text) : Text :=
  let kept := withoutSlashes path
  if kept.contains File.slash then
    let before := kept.take (kept.length - (Text.afterLast File.slash kept).length)
    if kept = [File.slash] then kept else withoutSlashes before
  else "."

namespace Utility

/-- The ends of lines that a program prints. -/
def lineEnd (g : Given) : Text := if g.has 'z' || g.has '0' then [CodePoint.ofNat 0] else "\n"

def basename : Utility := fun c =>
  c.withOptions
    ⟨[('a', .nothing), ('s', .value), ('z', .nothing)],
      [("multiple", 'a', .nothing), ("suffix", 's', .value), ("zero", 'z', .nothing)], true⟩
    fun g =>
      let line (suffix path : Text) : Text :=
        let name := lastStep path
        (if name.head? = some File.slash then name else withoutSuffix suffix name) ++ lineEnd g
      match g.has 'a' || g.has 's', g.operands with
      | _, [] => c.missingOperand
      | true, paths => c.printed (paths.flatMap (line ((g.value? 's').getD [])))
      | false, [path] => c.printed (line [] path)
      | false, [path, suffix] => c.printed (line suffix path)
      | false, _ :: _ :: extra :: _ => c.refused ("extra operand " ++ quotedValue extra) 1

def dirname : Utility := fun c =>
  c.withOptions ⟨[('z', .nothing)], [("zero", 'z', .nothing)], true⟩ fun g =>
    if g.operands.isEmpty then c.missingOperand
    else c.printed (g.operands.flatMap fun path => directoryOf path ++ lineEnd g)

/-- The directory that paths start from. -/
def workingDirectory : Utility := fun c =>
  c.withOptions
    ⟨[('L', .nothing), ('P', .nothing)], [("logical", 'L', .nothing), ("physical", 'P', .nothing)], false⟩
    fun g =>
      let physical := "/" ++ Text.joined [File.slash] c.files.here
      let isLogical := (g.options.getLast?.map Prod.fst) = some 'L'
      match if isLogical then c.setting? "PWD" else none with
      | some path =>
        let isClean := path.head? = some File.slash && !(File.steps path).any fun (s : Text) => s = "." || s = ".."
        if isClean && (c.files.locate path).toOption = some c.files.here then c.printed (path ++ "\n")
        else c.printed (physical ++ "\n")
      | none => c.printed (physical ++ "\n")

/-- The variables that programs inherit, or the values of some of them. -/
def printSettings : Utility := fun c =>
  c.withOptions ⟨[('0', .nothing)], [("null", '0', .nothing)], true⟩ fun g =>
    match g.operands with
    | [] => c.printed (c.settings.flatMap fun s => s.1 ++ "=" ++ s.2 ++ lineEnd g)
    | names =>
      let found := names.filterMap fun name => c.settings.lookup name
      { c.printed (found.flatMap (· ++ lineEnd g)) with status := if found.length = names.length then 0 else 1 }

/-- Does something to each path in turn, with the files that the others left. -/
def onEach (c : Call) (paths : List Text) (act : File.System → Text → Except Text File.System) : Ran :=
  let (files, chunks) := paths.foldl
    (fun (files, chunks) path =>
      match act files path with
      | .ok files => (files, chunks)
      | .error message => (files, c.complaint message :: chunks))
    (c.files, ([] : List Chunk))
  { c.quiet (if chunks.isEmpty then 0 else 1) with chunks := chunks.reverse, files }

def missingFile (c : Call) : Ran := c.refused "missing file operand" 1

def touch : Utility := fun c =>
  c.withOptions
    ⟨[('a', .nothing), ('c', .nothing), ('m', .nothing), ('h', .nothing), ('d', .value), ('t', .value),
        ('r', .value)], [("no-create", 'c', .nothing)], false⟩
    fun g =>
      if g.operands.isEmpty then missingFile c
      else onEach c g.operands fun files path =>
        if g.has 'c' && (files.find path).toOption.isNone then .ok files
        else
          match files.create path false with
          | .ok (files, _) => .ok files
          | .error .isDirectory =>
            if files.isDirectory path then .ok files
            else .error ("setting times of " ++ quotedName path ++ ": " ++ File.Refusal.missing.reason)
          | .error r => .error ("cannot touch " ++ quotedName path ++ ": " ++ r.reason)

/-- The path of each directory on the way to a path, the path itself last. -/
def waysTo (path : Text) : List Text :=
  let steps := File.steps path
  (List.range steps.length).map fun n =>
    (if path.head? = some File.slash then [File.slash] else []) ++ Text.joined [File.slash] (steps.take (n + 1))

def makeDirectories : Utility := fun c =>
  c.withOptions
    ⟨[('p', .nothing), ('m', .value), ('v', .nothing)],
      [("parents", 'p', .nothing), ("mode", 'm', .value), ("verbose", 'v', .nothing)], false⟩
    fun g =>
      if g.operands.isEmpty then c.missingOperand
      else
        let refusal (path : Text) (r : File.Refusal) : Text :=
          "cannot create directory " ++ quotedName path ++ ": " ++ r.reason
        let make (files : File.System) (path : Text) : Except Text File.System :=
          (files.makeDirectory path).mapError (refusal path)
        onEach c g.operands fun files path =>
          if g.has 'p' then
            (waysTo path).foldlM (fun files way => if files.isDirectory way then .ok files else
              (files.makeDirectory way).mapError (refusal (if (files.find way).toOption.isSome then way else path)))
              files
          else make files path

/-- All places in a directory. -/
def within (files : File.System) (place : File.Place) : List File.Place :=
  (files.entries.map Prod.fst).filter fun p => place.isPrefixOf p && p ≠ place

def removeDirectories : Utility := fun c =>
  c.withOptions ⟨[('p', .nothing), ('v', .nothing)], [("parents", 'p', .nothing)], false⟩ fun g =>
    if g.operands.isEmpty then c.missingOperand
    else onEach c g.operands fun files path =>
      let refused (r : File.Refusal) : Except Text File.System :=
        .error ("failed to remove " ++ quotedName path ++ ": " ++ r.reason)
      match files.find path, files.locateLast path with
      | .ok .directory, .ok place =>
        if !(within files place).isEmpty then refused .notEmpty else .ok (files.put place none)
      | .ok _, _ => refused .notDirectory
      | .error r, _ => refused r

def remove : Utility := fun c =>
  c.withOptions
    ⟨"firRvd".toList.map (·, .nothing),
      [("force", 'f', .nothing), ("recursive", 'r', .nothing), ("dir", 'd', .nothing)], false⟩
    fun g =>
      if g.operands.isEmpty then (if g.has 'f' then c.quiet 0 else c.missingOperand)
      else onEach c g.operands fun files path =>
        let refused (r : File.Refusal) : Except Text File.System :=
          .error ("cannot remove " ++ quotedName path ++ ": " ++ r.reason)
        match files.locateLast path with
        | .error r => if g.has 'f' && r.isAbsence then .ok files else refused r
        | .ok place =>
          match files.get? place with
          | none => if g.has 'f' then .ok files else refused .missing
          | some .directory =>
            let inner := within files place
            if g.has 'r' || g.has 'R' then
              .ok ((inner ++ [place]).foldl (fun files p => files.put p none) files)
            else if g.has 'd' && inner.isEmpty then .ok (files.put place none)
            else refused (if g.has 'd' then .notEmpty else .isDirectory)
          | some _ => .ok (files.put place none)

/-- Puts what is at one path at another, or into it if that is a directory. -/
def place (c : Call) (g : Given) (takes : Bool) : Ran :=
  match g.operands.reverse with
  | [] => missingFile c
  | [only] => c.refused ("missing destination file operand after " ++ quotedName only) 1
  | target :: sources =>
    if 1 < sources.length && !c.files.isDirectory target then
      c.complained ("target " ++ quotedName target ++
        (if (c.files.find target).toOption.isSome then Text.ofString " is not a directory" else
          ": " ++ File.Refusal.missing.reason)) 1
    else onEach c sources.reverse fun files source =>
      let final := if files.isDirectory target then withoutSlashes target ++ "/" ++ lastStep source else target
      match files.locateLast source, files.find source with
      | .ok from_, .ok e =>
        let copies (content : Text) : Except Text File.System :=
          match files.create final true with
          | .error r => .error ("cannot create regular file " ++ quotedName final ++ ": " ++ r.reason)
          | .ok (files, there) => .ok ((files.write there (some 0) content).toOption.getD files)
        if (files.locate final).toOption = some from_ then
          .error (quotedName source ++ " and " ++ quotedName final ++ " are the same file")
        else if takes then
          match files.locateLast final with
          | .error r => .error ("cannot move " ++ quotedName source ++ " to " ++ quotedName final ++ ": " ++ r.reason)
          | .ok there =>
            let moved := (files.entries.filter fun x => from_.isPrefixOf x.1).map fun x =>
              (there ++ x.1.drop from_.length, x.2)
            .ok { files with entries := moved ++ files.entries.filter fun x =>
              !from_.isPrefixOf x.1 && x.1 ≠ there }
        else
          match e with
          | .directory =>
            if g.has 'r' || g.has 'R' || g.has 'a' then
              match files.locateLast final with
              | .error r => .error ("cannot create directory " ++ quotedName final ++ ": " ++ r.reason)
              | .ok there =>
                let copied := (files.entries.filter fun x => from_.isPrefixOf x.1).map fun x =>
                  (there ++ x.1.drop from_.length, x.2)
                .ok { files with entries := copied ++ files.entries }
            else .error ("-r not specified; omitting directory " ++ quotedName source)
          | e => match File.System.contents e with
            | .ok content => copies content
            | .error r => .error ("cannot open " ++ quotedName source ++ " for reading: " ++ r.reason)
      | .error r, _ | _, .error r => .error ("cannot stat " ++ quotedName source ++ ": " ++ r.reason)

def copy : Utility := fun c =>
  c.withOptions ⟨"rRafpinv".toList.map (·, .nothing), [("recursive", 'r', .nothing), ("force", 'f', .nothing)], false⟩
    (place c · false)

def move : Utility := fun c =>
  c.withOptions ⟨"finv".toList.map (·, .nothing), [("force", 'f', .nothing)], false⟩ (place c · true)

/-- The names in directories. -/
def list : Utility := fun c =>
  c.withOptions
    ⟨"1aAdrCFp".toList.map (·, .nothing), [("all", 'a', .nothing), ("almost-all", 'A', .nothing)], false⟩
    fun g =>
      let operands := if g.operands.isEmpty then [Text.ofString "."] else g.operands
      let ordered (names : List Text) : List Text :=
        let names := names.mergeSort Text.le
        if g.has 'r' then names.reverse else names
      let isListed (name : Text) : Bool := !g.has 'd' && c.files.isDirectory name
      let missing := operands.filterMap fun name => match c.files.find name with
        | .ok _ => none
        | .error r => some (c.complaint ("cannot access " ++ quotedName name ++ ": " ++ r.reason))
      let there := ordered (operands.filter fun name => (c.files.find name).toOption.isSome)
      let lines (names : List Text) : Text := names.flatMap fun (name : Text) => (name ++ "\n" : Text)
      let files := lines (there.filter fun name => !isListed name)
      let directories := (there.filter isListed).map fun name =>
        let names := c.files.names ((c.files.locate name).toOption.getD [])
        let hidden := names.filter fun n => n.head? = some (CodePoint.ofChar '.')
        let shown := names.filter fun n => n.head? ≠ some (CodePoint.ofChar '.')
        let wish := (g.options.reverse.find? fun o => o.1 = 'a' || o.1 = 'A').map Prod.fst
        let dots := if wish = some 'a' then [Text.ofString ".", Text.ofString ".."] else []
        let all := dots ++ (if wish.isSome then hidden else []) ++ shown
        let header : Text := if 1 < operands.length then name ++ ":\n" else []
        header ++ lines (ordered all)
      let blocks := (if files = [] then [] else [files]) ++ directories
      { c.quiet (if missing.isEmpty then 0 else 2) with chunks := missing ++ [⟨false, Text.joined "\n" blocks⟩] }

end Utility

end LspEndpoint.Program
