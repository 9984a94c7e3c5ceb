import LspEndpoint.Program.Shell.Arithmetic
import LspEndpoint.Program.Shell.Machine
import LspEndpoint.Program.Shell.Pattern

/-!
What words come to. The parts of a word become pieces, which are split into fields where they come from
values that are not quoted; fields are then patterns for the names of files.
-/
namespace LspEndpoint.Program.Shell

/-- An octet of a value, the place of a quotation mark, or the end of an argument. -/
inductive Atom
  | octet (c : CodePoint) (isEscaped : Bool)
  | quote
  | cut

/-- Where a piece may be split. -/
inductive Splitting
  | never
  | atSeparators
  | atCuts
deriving DecidableEq

structure Piece where
  atoms : List Atom
  splitting : Splitting

/-- How a word is used: whether it becomes fields, whether it stands in quotation marks, whether it is a
word that stands for a value, whether it sets a variable, and whether a tilde at its start counts. -/
structure Mode where
  splits : Bool
  isQuoted : Bool
  inValue : Bool
  sets : Bool
  hasTilde : Bool

namespace Mode

def fields : Mode := ⟨true, false, false, false, true⟩

def text : Mode := ⟨false, false, false, false, true⟩

def setting : Mode := ⟨false, false, false, true, false⟩

def quoted : Mode := ⟨false, true, false, false, false⟩

def calculation : Mode := ⟨false, false, false, false, false⟩

end Mode

def Atom.octet? : Atom → Option CodePoint
  | octet c _ => some c
  | _ => none

def Piece.text (ps : List Piece) : Text := ps.flatMap fun p => p.atoms.filterMap Atom.octet?

/-- The octets as they are matched. -/
def Piece.signs (ps : List Piece) : Glob.Signs := ps.flatMap fun p => p.atoms.filterMap fun
  | .octet c isEscaped => some (c, isEscaped)
  | _ => none

def atomsOf (m : Mode) (t : Text) : List Atom :=
  t.map fun c => .octet c (m.isQuoted || (c = '\\' && m.splits))

/-- The fields that have been split off, backwards, and the one that is being gathered, backwards. There
may be a number of fields that are wanted; the last of them takes all that is left, but what it keeps
ends in front of blanks, and of one other separator if there is no more. -/
structure Fields where
  done : List (List Atom)
  current : List Atom
  afterBlank : Bool
  lastAtCuts : Bool
  wanted : Option Nat
  kept : Option Nat

namespace Fields

def isBlankSeparator (c : CodePoint) : Bool := c = ' ' || c.val = 9 || c.val = 10

/-- Takes an atom of a piece that may be split. A separator ends a field; blanks count once, together with
one other separator, and not at all at the start. -/
def take (separators : Text) (atCuts afterCuts : Bool) (f : Fields) (a : Atom) : Fields :=
  let (separates, isBlank) : Bool × Bool := match a with
    | .octet c _ =>
      let separates := !atCuts && separators.contains c
      (separates, separates && isBlankSeparator c)
    | .cut => (true, true)
    | .quote => (false, false)
  if f.wanted = some 0 then
    let current := a :: f.current
    if isBlank then { f with current, kept := f.kept.or (some f.current.length) }
    else { f with current, afterBlank := false, kept := if separates && f.afterBlank then f.kept else none }
  else if f.afterBlank then
    { f with current := if separates then [] else [a], afterBlank := isBlank }
  else if separates then
    let afterBlank := if afterCuts || atCuts then false else isBlank
    if f.current.isEmpty && afterBlank then { f with afterBlank := false }
    else if f.wanted = some 1 then
      { f with wanted := some 0, current := a :: f.current, kept := some f.current.length, afterBlank }
    else { f with wanted := f.wanted.map (· - 1), done := f.current.reverse :: f.done, current := [], afterBlank }
  else { f with current := a :: f.current }

def piece (separators : Text) (f : Fields) (p : Piece) : Fields :=
  if p.splitting = .never then { f with current := p.atoms.reverse ++ f.current }
  else
    let atCuts := p.splitting = .atCuts
    p.atoms.foldl (take separators atCuts f.lastAtCuts)
      { f with afterBlank := false, lastAtCuts := atCuts }

/-- The fields of pieces. The last one counts if anything is in it, or an argument ended it. -/
def gathered (separators : Text) (wanted : Option Nat) (ps : List Piece) : List (List Atom) :=
  let f := ps.foldl (piece separators) ⟨[], [], false, false, wanted, none⟩
  let last := match f.kept with
    | some n => f.current.reverse.take n
    | none => f.current.reverse
  (if f.lastAtCuts || !last.isEmpty then last :: f.done else f.done).reverse

def ofPieces (separators : Text) (ps : List Piece) : List (List Atom) := gathered separators none ps

/-- At most so many fields. -/
def ofLimited (separators : Text) (wanted : Nat) (ps : List Piece) : List (List Atom) :=
  gathered separators (some wanted) ps

end Fields

/-! Names of files. -/

/-- The names that a pattern for one step matches, when a name with a dot in front needs one. -/
def matchingNames (files : File.System) (place : File.Place) (gs : List Glob) : List Text :=
  let startsWithDot := gs.head? = some (.octet '.')
  ((Text.ofString "." :: Text.ofString ".." :: files.names place).filter fun name =>
    Glob.isMatch gs name && (startsWithDot || name.head? ≠ some (CodePoint.ofChar '.')))

/-- The paths that steps of a pattern match behind a path. -/
def matchingPaths (files : File.System) (before : Text) : List Glob.Signs → List Text
  | [] => []
  | step :: rest =>
    let gs := Glob.ofSigns 0 step
    let isLast := rest.isEmpty
    let on (path : Text) : List Text :=
      if isLast then [path] else matchingPaths files (path ++ "/") rest
    if Glob.isOpen gs then
      let here : Text := if before = [] then "." else before
      match files.locate here with
      | .ok place =>
        if files.isDirectory here then
          ((matchingNames files place gs).mergeSort Text.le).flatMap fun name => on (before ++ name)
        else []
      | .error _ => []
    else
      let path := before ++ step.map Prod.fst
      if isLast then (match files.find (if path = [] then "." else path) with
        | .ok _ => [path]
        | .error _ => [])
      else on path

/-- The steps of a pattern. -/
def stepsOf : Glob.Signs → List Glob.Signs
  | [] => [[]]
  | s :: rest =>
    if s.1 = '/' then [] :: stepsOf rest
    else
      match stepsOf rest with
      | [] => [[s]]
      | p :: ps => (s :: p) :: ps

/-- The text of a field, or the paths that it matches. -/
def paths (files : File.System) (field : List Atom) : List Text :=
  let signs := field.filterMap fun
    | .octet c isEscaped => some (c, isEscaped)
    | _ => none
  let plain := field.filterMap Atom.octet?
  if Glob.isOpen (Glob.ofSigns 0 signs) then
    match (matchingPaths files [] (stepsOf signs)).mergeSort Text.le with
    | [] => [plain]
    | found => found
  else [plain]

namespace Act

/-! Parameters. -/

/-- The octets of texts with a separator between each two. -/
def joinedAtoms (m : Mode) (separator : Option Atom) (ts : List Text) : List Atom :=
  match ts with
  | [] => []
  | t :: ts => atomsOf m t ++ ts.flatMap fun t => separator.toList ++ atomsOf m t

/-- The value of a parameter; none if it has not been set. -/
def parameter? (m : Mode) (name : Text) : Act (Option (List Atom)) := do
  let p ← process
  let one (t : Text) : Act (Option (List Atom)) := return some (atomsOf m t)
  if name = "#" then one (Text.ofNat p.arguments.length)
  else if name = "?" then one (Text.ofNat p.status)
  else if name = "$" then one (Text.ofNat (← ownNumber))
  else if name = "!" then return p.background.map fun n => atomsOf m (Text.ofNat n)
  else if name = "-" then one p.options
  else if name = "@" || name = "*" then
    let separators ← value? "IFS"
    let separator : Option Atom :=
      if m.isQuoted && m.splits && name = "@" then some .cut
      else
        match separators with
        | none => some (.octet ' ' m.isQuoted)
        | some t => if m.isQuoted || !m.splits then t.head?.map (.octet · m.isQuoted) else some .cut
    return some (joinedAtoms m separator p.arguments)
  else if name.head?.any CodePoint.isDigit then
    let n := name.foldl (fun n c => n * 10 + c.digitValue) 0
    return ((p.zero :: p.arguments)[n]?).map (atomsOf m)
  else return (← value? name).map (atomsOf m)

/-- The home directory of a user. -/
def homeOf? (files : File.System) (user : Text) : Option Text :=
  match files.read "/etc/passwd" with
  | .ok t => (Text.pieces '\n' t).findSome? fun line =>
      match Text.pieces ':' line with
      | name :: _ :: _ :: _ :: _ :: home :: _ => if name = user then some home else none
      | _ => none
  | .error _ => none

/-- The home directory that a tilde stands for, and how many parts it takes. -/
def tilde? (m : Mode) (parts : List Part) : Act (Option (Text × Nat)) := do
  match parts with
  | .octet c false :: rest =>
    if c ≠ '~' then return none
    let isNamed : Part → Bool
      | .octet c false => !(c = '/' || (m.sets && c = ':'))
      | _ => false
    let name := (rest.takeWhile isNamed)
    let isWhole := match rest.drop name.length with
      | [] | .octet _ false :: _ => true
      | _ => false
    if !isWhole then return none
    let home ← if name.isEmpty then value? "HOME"
      else do
        let user := name.filterMap fun
          | .octet c _ => some c
          | _ => none
        pure (homeOf? (← world).files user)
    return home.map fun t => (t, name.length + 1)
  | _ => return none

/-- Where the value of a parameter may be split. -/
def splitting (m : Mode) (name : Text) : Act Splitting := do
  if !m.isQuoted then return .atSeparators
  if name = "@" && !(← process).arguments.isEmpty then return .atCuts
  return .never

variable (inner : Mode → List Part → Act (List Piece))

/-- Sets a variable that a word or a calculation names. -/
def assignNamed (name value : Text) : Act Unit := do
  if !isName name then fail (name ++ ": bad variable name")
  assign name (some value)

/-- The pieces of a parameter that is used in some way. -/
def parameter (m : Mode) (name : Text) (use : Use) (countsEmpty : Bool) (word : List Part) :
    Act (List Piece) := do
  let found ← parameter? m name
  let found := match found with
    | some atoms => if countsEmpty && atoms.isEmpty then none else some atoms
    | none => none
  let given (atoms : List Atom) : Act (List Piece) := return [⟨atoms, ← splitting m name⟩]
  match use, found with
  | .malformed, _ => fail "Bad substitution"
  | .instead, none => return []
  | .instead, some _ | .orElse, none => inner { m with inValue := true, hasTilde := true } word
  | .orAssign, none =>
    assignNamed name (Piece.text (← inner .text word))
    given ((← parameter? m name).getD [])
  | .orFail, none =>
    let message := Piece.text (← inner .text word)
    let unset : Text := if countsEmpty then "parameter not set or null" else "parameter not set"
    fail (name ++ ": " ++ if word.isEmpty then unset else message)
  | .length, none | .trimmed _ _, none | .value, none =>
    if found.isNone && (← hasOption 'u') then fail (name ++ ": parameter not set")
    if use = .length then given (atomsOf m "0") else return []
  | .length, some atoms => given (atomsOf m (Text.ofNat (atoms.filter fun
      | .quote => false
      | _ => true).length))
  | .trimmed atEnd longest, some atoms =>
    let gs := Glob.ofSigns 0 (Piece.signs (← inner .text word))
    let atoms := atoms.filter fun
      | .quote => false
      | _ => true
    given (match parting? atEnd longest gs (atoms.map Atom.octet?) with
      | some n => if atEnd then atoms.take n else atoms.drop n
      | none => atoms)
  | _, some atoms => given atoms

/-- The value of a calculation. -/
def arithmetic (m : Mode) (parts : List Part) : Act (List Piece) := do
  let t := Piece.text (← inner .calculation parts)
  let m' ← get
  let lookup (name : Text) : Option Text := (m'.process.settings.lookup name).bind Variable.value
  match Arithmetic.calculate lookup t with
  | .error (.form message) =>
    fail ("arithmetic expression: " ++ Text.ofString message ++ ": \"" ++ t ++ "\"")
  | .error (.illegal value) => fail ("Illegal number: " ++ value)
  | .ok (n, assigned) =>
    assigned.forM fun a => assign a.1 (some (Text.ofInt a.2))
    return [⟨atomsOf m (Text.ofInt n), if m.isQuoted then .never else .atSeparators⟩]

/-- The output of a command without the line ends behind it. -/
def withoutLineEnds (t : Text) : Text := (t.reverse.dropWhile fun c => c.val = 0x0A).reverse

variable (output : Command → Act Text)

/-- The pieces of parts, `skip` of which are done with. A tilde counts at the start, and where a value of
a variable starts. -/
def piecesFrom (m : Mode) : (skip : Nat) → (atStart hasSign inQuotes : Bool) → List Part →
    Act (List Piece)
  | _, _, _, _, [] => return []
  | skip + 1, _, hasSign, inQuotes, _ :: rest => piecesFrom m skip false hasSign inQuotes rest
  | 0, atStart, hasSign, inQuotes, part :: rest => do
    let home ← if atStart then tilde? m (part :: rest) else pure none
    match home with
    | some (home, taken) =>
      let more ← piecesFrom m (taken - 1) false hasSign inQuotes rest
      return ⟨atomsOf { m with isQuoted := true } home, .never⟩ :: more
    | none =>
      let quoted : Mode := { m with isQuoted := m.isQuoted || inQuotes }
      let on (ps : List Piece) : Act (List Piece) := do
        return ps ++ (← piecesFrom m 0 false hasSign inQuotes rest)
      match part with
      | .octet c isEscaped =>
        let splits := m.inValue && !quoted.isQuoted && !isEscaped
        let isStart := m.sets && !isEscaped && ((c = '=' && !hasSign) || c = ':')
        let more ← piecesFrom m 0 isStart (hasSign || (c = '=' && !isEscaped)) inQuotes rest
        let piece : Piece := ⟨[.octet c isEscaped], if splits then .atSeparators else .never⟩
        match rest, more with
        | .octet _ false :: _, next :: more =>
          if piece.splitting = next.splitting then return { next with atoms := piece.atoms ++ next.atoms } :: more
          return piece :: next :: more
        | _, _ => return piece :: more
      | .quote =>
        match inQuotes, rest with
        | false, .parameter name .value false [] :: .quote :: _ =>
          if name = "@" then
            let ps ← parameter inner { m with isQuoted := true } name .value false []
            return ps ++ (← piecesFrom m 2 false hasSign false rest)
          return ⟨[.quote], .never⟩ :: (← piecesFrom m 0 false hasSign true rest)
        | _, _ => return ⟨[.quote], .never⟩ :: (← piecesFrom m 0 false hasSign (!inQuotes) rest)
      | .parameter name use countsEmpty word => on (← parameter inner quoted name use countsEmpty word)
      | .arithmetic parts => on (← arithmetic inner quoted parts)
      | .command c =>
        let t := withoutLineEnds (← output c)
        on [⟨atomsOf quoted t, if quoted.isQuoted then .never else .atSeparators⟩]

end Act

/-- The pieces of parts, with levels for what stands inside of them. -/
def pieces (output : Command → Act Text) : (levels : Nat) → Mode → List Part → Act (List Piece)
  | 0, _, _ => Act.fail "out of space"
  | levels + 1, m, parts => Act.piecesFrom (pieces output levels) output m 0 m.hasTilde false false parts

namespace Act

variable (output : Command → Act Text)

def piecesOf (m : Mode) (w : Word) : Act (List Piece) := pieces output deepest m w

/-- A word as fields. -/
def fields (w : Word) : Act (List Text) := do
  let ps ← piecesOf output .fields w
  let found := Fields.ofPieces (← separators) ps
  if ← hasOption 'f' then return found.map (·.filterMap Atom.octet?)
  let files := (← world).files
  return found.flatMap (paths files)

/-- Words as fields, one behind the other. -/
def allFields : List Word → Act (List Text)
  | [] => return []
  | w :: ws => do
    let first ← fields output w
    return first ++ (← allFields ws)

/-- A word as one text. -/
def textOf (m : Mode) (w : Word) : Act Text := do return Piece.text (← piecesOf output m w)

/-- A word as a pattern. -/
def patternOf (w : Word) : Act (List Glob) := do
  return Glob.ofSigns 0 (Piece.signs (← piecesOf output .text w))

end Act

end LspEndpoint.Program.Shell
