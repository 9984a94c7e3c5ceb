import LspEndpoint.Program.Shell.Word

/-!
Calculations in whole numbers of sixty-four bits. A name stands for the value of its variable, and may be
set; what is behind a condition that does not hold is read but not calculated.
-/
namespace LspEndpoint.Program.Shell.Arithmetic

/-- A sign, with one for what is no part of a calculation. -/
inductive Lexeme
  | number (n : Int)
  | name (t : Text)
  | sign (t : String)
  | junk
deriving DecidableEq

/-- The number of sixty-four bits that a number is cut to. -/
def wrapped (n : Int) : Int := Int.bmod n 18446744073709551616

def largest : Int := 9223372036854775807

/-- The nearest number of sixty-four bits, and whether it is another one. -/
def bounded (n : Int) : Int × Bool :=
  if largest < n then (largest, true)
  else if n < -largest - 1 then (-largest - 1, true)
  else (n, false)

def digitsOf (base : Nat) (t : Text) : Text :=
  t.takeWhile fun c => (c.hexValue?.map fun n => decide (n < base)).getD false

/-- The magnitude at the start of a text, in base eight behind a zero and in base sixteen behind `0x`,
and how much of the text it takes. -/
def magnitude (t : Text) : Nat × Nat :=
  let isHex := (t.startsWith "0x" || t.startsWith "0X") && digitsOf 16 (t.drop 2) ≠ []
  let base := if isHex then 16 else if t.startsWith "0" then 8 else 10
  let skipped := if isHex then 2 else 0
  let ds := digitsOf base (t.drop skipped)
  (ds.foldl (fun n c => n * base + c.hexValue?.getD 0) 0, ds.length + skipped)

/-- The signs, longer ones in front of those that they start with. -/
def signs : List String :=
  ["<<=", ">>=", "<<", ">>", "<=", ">=", "==", "!=", "&&", "||", "+=", "-=", "*=", "/=", "%=", "&=", "|=",
    "^=", "<", ">", "=", "!", "(", ")", "*", "/", "%", "+", "-", "~", "^", "?", ":", "&", "|"]

/-- The lexemes of a text. After one that is no part of a calculation none is read. -/
def lexemes : (skip : Nat) → Text → List Lexeme
  | _, [] => []
  | skip + 1, _ :: t => lexemes skip t
  | 0, c :: t =>
    if isBlank c || c.val = 0x0A then lexemes 0 t
    else if c.isDigit then
      let (n, taken) := magnitude (c :: t)
      .number (bounded n).1 :: lexemes (taken - 1) t
    else if isNameStart c then
      let name := c :: t.takeWhile isNamePart
      .name name :: lexemes (name.length - 1) t
    else
      match signs.find? fun s => Text.startsWith (c :: t) s with
      | some s => .sign s :: lexemes (s.length - 1) t
      | none => [.junk]

/-- How strongly a sign of two operands binds, the strongest first. -/
def strength? (s : String) : Option Nat :=
  [["*", "/", "%"], ["+", "-"], ["<<", ">>"], ["<", "<=", ">", ">="], ["==", "!="], ["&"], ["^"],
    ["|"]].findIdx? fun level => level.contains s

def truth (b : Bool) : Int := if b then 1 else 0

/-- A number as an unsigned one of sixty-four bits. -/
def unsigned (n : Int) : Nat := (n % 18446744073709551616).toNat

/-- The outcome of two operands; none for a division by zero. -/
def combined? (s : String) (a b : Int) : Option Int :=
  let shift := Nat.pow 2 (unsigned b % 64)
  match s with
  | "*" => some (wrapped (a * b))
  | "/" => if b = 0 then none else some (wrapped (Int.tdiv a b))
  | "%" => if b = 0 then none else some (wrapped (Int.tmod a b))
  | "+" => some (wrapped (a + b))
  | "-" => some (wrapped (a - b))
  | "<<" => some (wrapped (a * shift))
  | ">>" => some (Int.fdiv a shift)
  | "<" => some (truth (a < b))
  | "<=" => some (truth (a ≤ b))
  | ">" => some (truth (a > b))
  | ">=" => some (truth (a ≥ b))
  | "==" => some (truth (a = b))
  | "!=" => some (truth (a ≠ b))
  | "&" => some (wrapped (Nat.land (unsigned a) (unsigned b)))
  | "^" => some (wrapped (Nat.xor (unsigned a) (unsigned b)))
  | _ => some (wrapped (Nat.lor (unsigned a) (unsigned b)))

/-- The sign that a sign which sets a variable holds, if it is one; the empty one for the plain sign. -/
def settingSign? (s : String) : Option String :=
  if s = "=" then some ""
  else (["+=", "-=", "*=", "/=", "%=", "<<=", ">>=", "&=", "^=", "|="].find? (· = s)).map fun s =>
    String.ofList s.toList.dropLast

/-- What is wrong with a calculation: its form, or a value that is no number. -/
inductive Fault
  | form (message : String)
  | illegal (value : Text)

/-- The number that a value stands for; an empty one counts as zero. -/
def numberOf (value : Text) : Except Fault Int :=
  let isSpace (c : CodePoint) : Bool := c = ' ' || (9 ≤ c.val && c.val ≤ 13)
  let t := value.dropWhile isSpace
  let negative := t.head? = some (CodePoint.ofChar '-')
  let u := if negative || t.head? = some (CodePoint.ofChar '+') then t.tail else t
  let (n, taken) := magnitude u
  let (n, isCut) := bounded (if negative then -(n : Int) else n)
  let behind := if taken = 0 then value else u.drop taken
  if isCut || !behind.all isSpace then .error (.illegal value) else .ok n

/-- What is left to read, and what variables have been set to, the latest first. -/
structure State where
  rest : List Lexeme
  assigned : List (Text × Int)

abbrev Calculation := ReaderT (Text → Option Text) (StateT State (Except Fault))

namespace Calculation

def fail {α : Type} (message : String) : Calculation α := throw (.form message)

def skip (n : Nat) : Calculation Unit := modify fun s => { s with rest := s.rest.drop n }

def isAt (s : String) : Calculation Bool := do return (← get).rest.head? = some (.sign s)

def value (name : Text) : Calculation Int := do
  match (← get).assigned.lookup name with
  | some n => return n
  | none => numberOf (((← read) name).getD [])

def combined (isDue : Bool) (s : String) (a b : Int) : Calculation Int := do
  if !isDue then return b
  match combined? s a b with
  | some n => return n
  | none => fail "division by zero"

variable (inner : (isDue : Bool) → Calculation Int)

/-- An operand with the signs in front of it. -/
def operand (isDue : Bool) : (bound : Nat) → Calculation Int
  | 0 => fail "expecting primary"
  | bound + 1 => do
    match (← get).rest with
    | .number n :: _ =>
      skip 1
      return n
    | .name t :: _ =>
      skip 1
      if isDue then value t else return 0
    | .sign s :: _ =>
      skip 1
      match s with
      | "(" =>
        let n ← inner isDue
        if !(← isAt ")") then fail "expecting ')'"
        skip 1
        return n
      | "+" => operand isDue bound
      | "-" => return wrapped (-(← operand isDue bound))
      | "!" => return truth ((← operand isDue bound) = 0)
      | "~" => return -(← operand isDue bound) - 1
      | _ => fail "expecting primary"
    | _ => fail "expecting primary"

/-- The sign of two operands that comes next, with its strength. -/
def strong? : Calculation (Option (String × Nat)) := do
  match (← get).rest with
  | .sign s :: _ => return (strength? s).map fun n => (s, n)
  | _ => return none

/-- Reads signs and operands behind the operand `a` as long as they bind more strongly than a limit. -/
def operations (isDue : Bool) : (bound : Nat) → (limit : Nat) → Int → Calculation Int
  | 0, _, a => return a
  | bound + 1, limit, a => do
    match ← strong? with
    | none => return a
    | some (s, strength) =>
      if limit ≤ strength then return a
      skip 1
      let b ← operand inner isDue (bound + 1)
      let b ← operations isDue bound strength b
      operations isDue bound limit (← combined isDue s a b)

def bound : Calculation Nat := do return (← get).rest.length + 1

def operands (isDue : Bool) : Calculation Int := do
  operations inner isDue (2 * (← bound)) 8 (← operand inner isDue (← bound))

def conjunction (isDue : Bool) : (bound : Nat) → Calculation Int
  | 0 => operands inner isDue
  | bound + 1 => do
    let a ← operands inner isDue
    if !(← isAt "&&") then return a
    skip 1
    let b ← conjunction (isDue && a ≠ 0) bound
    return truth (a ≠ 0 && b ≠ 0)

def disjunction (isDue : Bool) : (bound : Nat) → Calculation Int
  | 0 => conjunction inner isDue 0
  | bound + 1 => do
    let a ← conjunction inner isDue (bound + 1)
    if !(← isAt "||") then return a
    skip 1
    let b ← disjunction (isDue && a = 0) bound
    return truth (a ≠ 0 || b ≠ 0)

def condition (isDue : Bool) : (bound : Nat) → Calculation Int
  | 0 => disjunction inner isDue 0
  | bound + 1 => do
    let a ← disjunction inner isDue (bound + 1)
    if !(← isAt "?") then return a
    skip 1
    let b ← inner (isDue && a ≠ 0)
    if !(← isAt ":") then fail "expecting ':'"
    skip 1
    let c ← condition (isDue && a = 0) bound
    return if a ≠ 0 then b else c

/-- A condition, or a variable that is set to one. -/
def setting (isDue : Bool) : Calculation Int := do
  match (← get).rest with
  | .name t :: .sign s :: _ =>
    match settingSign? s with
    | some op =>
      skip 2
      let b ← inner isDue
      if !isDue then return b
      let n ← if op = "" then pure b else do combined true op (← value t) b
      modify fun s => { s with assigned := (t, n) :: s.assigned }
      return n
    | none => condition inner isDue (← bound)
  | _ => condition inner isDue (← bound)

end Calculation

def level : (levels : Nat) → (isDue : Bool) → Calculation Int
  | 0, _ => Calculation.fail "expecting primary"
  | levels + 1, isDue => Calculation.setting (level levels) isDue

/-- The value of a calculation and what variables it sets, in order. -/
def calculate (lookup : Text → Option Text) (t : Text) : Except Fault (Int × List (Text × Int)) := do
  let all := lexemes 0 t
  let (n, s) ← ((level (all.length + 1) true).run lookup).run ⟨all, []⟩
  if s.rest ≠ [] then throw (.form "expecting EOF")
  return (n, s.assigned.reverse)

end LspEndpoint.Program.Shell.Arithmetic
