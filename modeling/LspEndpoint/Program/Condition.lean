import LspEndpoint.File.System
import LspEndpoint.Program.Shell.Arithmetic

/-!
Conditions on texts, numbers and files, given as arguments. Arguments are operands wherever they cannot be
signs.
-/
namespace LspEndpoint.Program.Condition

/-- What is asked about a file. -/
inductive Question
  | present
  | file
  | directory
  | device
  | link
  | notEmpty
  | readable
  | runnable
  | never
deriving DecidableEq

/-- A sign of a condition: one that asks about one operand, one that compares two, and those that put
conditions together. -/
inductive Sign
  | isEmpty
  | isFilled
  | isTerminal
  | about (q : Question)
  | texts (test : Ordering → Bool)
  | numbers (test : Ordering → Bool)
  | files (name : String)
  | not
  | both
  | either
  | open
  | close

def Sign.isUnary : Sign → Bool
  | isEmpty | isFilled | isTerminal | about _ => true
  | _ => false

def Sign.isBinary : Sign → Bool
  | texts _ | numbers _ | files _ => true
  | _ => false

def signs : List (String × Sign) :=
  [("-z", .isEmpty), ("-n", .isFilled), ("-t", .isTerminal), ("-e", .about .present),
    ("-f", .about .file), ("-d", .about .directory), ("-c", .about .device), ("-h", .about .link),
    ("-L", .about .link), ("-s", .about .notEmpty), ("-r", .about .readable), ("-w", .about .readable),
    ("-x", .about .runnable), ("-b", .about .never), ("-p", .about .never), ("-S", .about .never),
    ("-u", .about .never), ("-g", .about .never), ("-k", .about .never), ("-O", .about .present),
    ("-G", .about .present), ("=", .texts (· = .eq)), ("!=", .texts (· ≠ .eq)),
    ("<", .texts (· = .lt)), (">", .texts (· = .gt)), ("-eq", .numbers (· = .eq)),
    ("-ne", .numbers (· ≠ .eq)), ("-lt", .numbers (· = .lt)), ("-le", .numbers (· ≠ .gt)),
    ("-gt", .numbers (· = .gt)), ("-ge", .numbers (· ≠ .lt)), ("-nt", .files "-nt"),
    ("-ot", .files "-ot"), ("-ef", .files "-ef"), ("!", .not), ("-a", .both), ("-o", .either),
    ("(", .open), (")", .close)]

def sign? (t : Text) : Option Sign := (signs.find? fun s => Text.ofString s.1 = t).map Prod.snd

def asks (files : File.System) (path : Text) (q : Question) : Bool :=
  match q with
  | .never => false
  | .link =>
    match files.locateLast path with
    | .ok place => match files.get? place with
      | some (.link _) => true
      | _ => false
    | .error _ => false
  | _ =>
    match files.find path, q with
    | .error _, _ => false
    | .ok .directory, .directory => true
    | .ok .directory, .runnable => true
    | .ok .directory, .notEmpty => true
    | .ok (.file _), .file => true
    | .ok (.program _), .file => true
    | .ok (.program _), .runnable => true
    | .ok (.program _), .notEmpty => true
    | .ok (.file t), .notEmpty => t ≠ []
    | .ok (.device _), .device => true
    | .ok _, q => q = .present || q = .readable

def compareTexts (a b : Text) : Ordering :=
  if a = b then .eq else if Text.le a b then .lt else .gt

/-- The whole number that an operand is. -/
def number (t : Text) : Except Text Int := do
  let isSpace (c : CodePoint) : Bool := c = ' ' || (9 ≤ c.val && c.val ≤ 13)
  let u := t.dropWhile isSpace
  let negative := u.head? = some (CodePoint.ofChar '-')
  let u := if negative || u.head? = some (CodePoint.ofChar '+') then u.tail else u
  let ds := u.takeWhile CodePoint.isDigit
  let n : Int := ds.foldl (fun n c => n * 10 + c.digitValue) 0
  let (n, isCut) := Shell.Arithmetic.bounded (if negative then -n else n)
  if ds = [] || isCut || !(u.drop ds.length).all isSpace then throw ("Illegal number: " ++ t)
  return n

/-- A condition that is being read. -/
abbrev Reader := ReaderT File.System (StateT (List Text) (Except Text))

namespace Reader

def complain {α : Type} (sign : Text) (message : Text) : Reader α :=
  throw (if sign = [] then message else sign ++ ": " ++ message)

/-- Whether a sign in front of these arguments could only be an operand. -/
def isOperand : List Text → Bool
  | [] => true
  | [_] => false
  | a :: _ :: _ => (sign? a).any Sign.isBinary

/-- What the first of some arguments is: a sign, or an operand. -/
def first? : List Text → Option Sign
  | [] => none
  | a :: rest =>
    match sign? a with
    | some .open => if rest.isEmpty then none else some .open
    | some s => if s.isUnary && isOperand rest then none else some s
    | none => none

def next : Reader (Option Sign) := do return first? (← get)

def drop (n : Nat) : Reader Unit := modify (·.drop n)

/-- The outcome of a sign between two operands. -/
def compared (a : Text) (name : Text) (s : Sign) (b : Text) : Reader Bool := do
  match s with
  | .texts test => return test (compareTexts a b)
  | .numbers test => return test (compare (← (number a : Except Text Int)) (← (number b : Except Text Int)))
  | _ =>
    let files ← read
    if name = "-ef" then return (match files.locate a, files.locate b with
      | .ok p, .ok q => p = q && (files.get? p).isSome
      | _, _ => false)
    else if name = "-nt" then return asks files a .present && !asks files b .present
    else return asks files b .present && !asks files a .present

/-- The outcome of a sign in front of an operand. -/
def asked (s : Sign) (a : Text) : Reader Bool := do
  match s with
  | .isEmpty => return a = []
  | .isFilled => return a ≠ []
  | .isTerminal =>
    discard (number a : Except Text Int)
    return false
  | .about q => return asks (← read) a q
  | _ => return false

variable (inner : Reader Bool)

/-- A condition without signs that put conditions together. What follows is left behind its last
argument. -/
def primary : Reader Bool := do
  let args ← get
  match ← next, args with
  | _, [] => return false
  | some .open, _ =>
    drop 1
    match ← next with
    | some .close => return false
    | _ =>
      let b ← inner
      drop 1
      match ← next with
      | some .close => return b
      | _ => complain [] "closing paren expected"
  | s, a :: rest =>
    match s, rest with
    | some s, rest =>
      if s.isUnary then
        drop 1
        match rest with
        | [] => complain a "argument expected"
        | b :: _ => asked s b
      else binary a rest
    | none, rest => binary a rest
where
  /-- A comparison, if a sign for one follows the operand. -/
  binary (a : Text) (rest : List Text) : Reader Bool := do
    match rest with
    | name :: more =>
      match first? rest with
      | some s =>
        if s.isBinary then
          drop 2
          match more with
          | [] => complain name "argument expected"
          | b :: _ => compared a name s b
        else return a ≠ []
      | none => return a ≠ []
    | [] => return a ≠ []

def negation : (bound : Nat) → Reader Bool
  | 0 => primary inner
  | bound + 1 => do
    match ← next with
    | some .not =>
      if (← get).length > 1 then
        drop 1
        return !(← negation bound)
      else
        drop 1
        return !(← primary inner)
    | _ => primary inner

def conjunction : (bound : Nat) → Reader Bool
  | 0 => negation inner 0
  | bound + 1 => do
    let a ← negation inner (← get).length
    match first? ((← get).drop 1) with
    | some .both =>
      drop 2
      let b ← conjunction bound
      return a && b
    | _ => return a

def disjunction : (bound : Nat) → Reader Bool
  | 0 => conjunction inner 0
  | bound + 1 => do
    let a ← conjunction inner (← get).length
    match first? ((← get).drop 1) with
    | some .either =>
      drop 2
      let b ← disjunction bound
      return a || b
    | _ => return a

end Reader

def level : (levels : Nat) → Reader Bool
  | 0 => return false
  | levels + 1 => do Reader.disjunction (level levels) (← get).length

/-- The outcome of all arguments. Few of them are told apart by their number first. -/
def outcome (files : File.System) (args : List Text) : Except Text Bool :=
  go args.length args
where
  go : (bound : Nat) → List Text → Except Text Bool
    | _, [] => .ok false
    | 0, _ => .ok false
    | bound + 1, args =>
      let whole : Except Text Bool := do
        let (b, rest) ← ((level (args.length + 1)).run files).run args
        match rest with
        | a :: _ :: _ =>
          throw (if a = [] then Text.ofString "unexpected operator" else a ++ ": unexpected operator")
        | _ => return b
      match args with
      | [a, op, b] =>
        if let some s := (sign? op).filter Sign.isBinary then
          (((Reader.compared a op s b).run files).run []).map Prod.fst
        else if a = "(" && b = ")" then (((level 4).run files).run [op]).map Prod.fst
        else if a = "!" then (go bound [op, b]).map not
        else whole
      | [a, b, c, d] =>
        if a = "(" && d = ")" then (((level 4).run files).run [b, c]).map Prod.fst
        else if a = "!" then (go bound [b, c, d]).map not
        else whole
      | _ => whole

end LspEndpoint.Program.Condition
