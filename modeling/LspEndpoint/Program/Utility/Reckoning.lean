import LspEndpoint.Program.Option
import LspEndpoint.Program.Utility.Lines

/-!
Programs that reckon with their arguments.
-/
namespace LspEndpoint.Program

/-- A number with a point: a whole number of parts, and how many digits the parts have. -/
structure Decimal where
  parts : Int
  digits : Nat

namespace Decimal

def read? (t : Text) : Option Decimal :=
  let isSigned := t.head? = some (CodePoint.ofChar '-') || t.head? = some (CodePoint.ofChar '+')
  let u := if isSigned then t.tail else t
  let whole := u.takeWhile CodePoint.isDigit
  let rest := u.drop whole.length
  let fraction := if rest.head? = some (CodePoint.ofChar '.') then rest.tail else []
  if (whole = [] && fraction = []) || !fraction.all CodePoint.isDigit ||
      (rest ≠ [] && rest.head? ≠ some (CodePoint.ofChar '.')) then none
  else
    let n : Int := decimalValue (whole ++ fraction)
    some ⟨if t.head? = some (CodePoint.ofChar '-') then -n else n, fraction.length⟩

/-- The parts when there are more digits of them. -/
def scaled (digits : Nat) (d : Decimal) : Int := d.parts * (Nat.pow 10 (digits - d.digits) : Nat)

/-- The number as text, with digits behind a point if there are any. -/
def text (d : Decimal) : Text :=
  let unit := Nat.pow 10 d.digits
  let n := d.parts.natAbs
  let fraction : Text := if d.digits = 0 then [] else "." ++ Text.padded d.digits (n % unit)
  (if d.parts < 0 then Text.ofString "-" else []) ++ Text.ofNat (n / unit) ++ fraction

end Decimal

/-- The numbers from a first to a last, as many as there are but no more than a bound. -/
def sequenceFrom (first step last : Int) : List Int :=
  let count := if step = 0 then 0 else (last - first) / step
  if (0 < step && last < first) || (step < 0 && first < last) || step = 0 then []
  else (List.range (count.toNat + 1)).map fun (k : Nat) => first + step * (k : Int)

/-! Expressions. -/

/-- An expression that is being read; what it comes to is a text. -/
abbrev Reckoner := StateT (List Text) (Except Text)

namespace Reckoner

def peek : Reckoner (Option Text) := do return (← get).head?

def integer? (t : Text) : Option Int :=
  let negative := t.head? = some (CodePoint.ofChar '-')
  let digits := if negative then t.tail else t
  if digits = [] || !digits.all CodePoint.isDigit then none
  else
    let n : Int := decimalValue digits
    some (if negative then -n else n)

def integer (t : Text) : Reckoner Int :=
  match integer? t with
  | some n => return n
  | none => throw (Text.ofString "non-integer argument")

/-- Whether a value counts as nothing: it is empty or zero. -/
def isNull (t : Text) : Bool := t = [] || integer? t = some 0

def ofBool (b : Bool) : Text := if b then "1" else "0"

variable (inner : Reckoner Text)

/-- The next argument, behind a sign that wants one. -/
def argument (before : Text) : Reckoner Text := do
  match ← get with
  | [] => throw ("syntax error: missing argument after " ++ quotedValue before)
  | a :: rest =>
    set rest
    return a

def operand (before : Text) : Reckoner Text := do
  let a ← argument before
  if a = "(" then
    let inside ← get
    let value ← inner
    match ← get with
    | [] => throw ("syntax error: expecting ')' after " ++ quotedValue (inside.getLastD a))
    | close :: rest =>
      if close ≠ ")" then throw ("syntax error: expecting ')' instead of " ++ quotedValue close)
      set rest
      return value
  else if a = ")" then throw (Text.ofString "syntax error: unexpected ')'")
  else if a = "+" then argument a
  else return a

/-- A value that a word in front of its arguments asks for. -/
def named (before : Text) : (bound : Nat) → Reckoner Text
  | 0 => operand inner before
  | bound + 1 => do
    match ← get with
    | [] => operand inner before
    | name :: rest =>
      if name = "length" then
        set rest
        return Text.ofNat (← named name bound).length
      else if name = "index" then
        set rest
        let t ← named name bound
        let set ← named t bound
        return Text.ofNat (match t.findIdx? fun c => set.contains c with
          | some i => i + 1
          | none => 0)
      else if name = "substr" then
        set rest
        let t ← named name bound
        let first ← named t bound
        let count ← named first bound
        return match integer? first, integer? count with
          | some a, some n => if a ≤ 0 || n ≤ 0 then [] else (t.drop (a.toNat - 1)).take n.toNat
          | _, _ => []
      else operand inner before

def signs : List (Nat × List String) :=
  [(0, ["|"]), (1, ["&"]), (2, ["<", "<=", "=", "==", "!=", ">=", ">"]), (3, ["+", "-"]), (4, ["*", "/", "%"])]

/-- What a sign between two values comes to. -/
def apply (sign a b : Text) : Reckoner Text := do
  let compared : Ordering := match integer? a, integer? b with
    | some m, some n => compare m n
    | _, _ => Order.compareTexts a b
  if sign = "|" then return if !isNull a then a else if !isNull b then b else "0"
  else if sign = "&" then return if isNull a || isNull b then "0" else a
  else if sign = "<" then return ofBool (compared = .lt)
  else if sign = "<=" then return ofBool (compared ≠ .gt)
  else if sign = ">" then return ofBool (compared = .gt)
  else if sign = ">=" then return ofBool (compared ≠ .lt)
  else if sign = "!=" then return ofBool (compared ≠ .eq)
  else if sign = "=" || sign = "==" then return ofBool (compared = .eq)
  else
    let m ← integer a
    let n ← integer b
    if sign = "+" then return Text.ofInt (m + n)
    else if sign = "-" then return Text.ofInt (m - n)
    else if sign = "*" then return Text.ofInt (m * n)
    else if n = 0 then throw (Text.ofString "division by zero")
    else if sign = "/" then return Text.ofInt (m.tdiv n)
    else return Text.ofInt (m.tmod n)

/-- Values with signs of a rank or higher ones between them, from the left to the right. -/
def ranked (before : Text) : (ranks : List (List String)) → Reckoner Text
  | [] => do named inner before (← get).length
  | signs :: higher => do
    let a ← ranked before higher
    let rec go (a : Text) : (bound : Nat) → Reckoner Text
      | 0 => return a
      | bound + 1 => do
        match ← get with
        | [] => return a
        | sign :: rest =>
          if signs.any fun s => Text.ofString s = sign then
            set rest
            let b ← ranked sign higher
            go (← apply sign a b) bound
          else return a
    go a (← get).length

def whole : (levels : Nat) → Reckoner Text
  | 0 => return []
  | levels + 1 => ranked (whole levels) [] (signs.map Prod.snd)

end Reckoner

namespace Utility

def sequence : Utility := fun c =>
  -- A number in front is no option.
  let isNumber (a : Text) : Bool := (Decimal.read? a).isSome
  let options := c.args.takeWhile fun a => !isNumber a
  let args := if options.any (fun (a : Text) => a = "-s" || a = "-f") then c.args
    else options ++ [Text.ofString "--"] ++ c.args.drop options.length
  let args := if options.contains (Text.ofString "--") then c.args else args
  { c with args }.withOptions
    ⟨[('s', .value), ('w', .nothing), ('f', .value)],
      [("separator", 's', .value), ("equal-width", 'w', .nothing), ("format", 'f', .value)], true⟩
    fun g =>
      let wrong := g.operands.find? fun a => !isNumber a
      let numbers := g.operands.filterMap Decimal.read?
      let run (first step last : Decimal) (stepText : Text) : Ran :=
        if step.parts = 0 then c.refused ("invalid Zero increment value: " ++ quotedValue stepText) 1
        else
          let digits := max first.digits step.digits
          let fine := max digits last.digits
          let values := (sequenceFrom (first.scaled fine) (step.scaled fine) (last.scaled fine)).map fun n =>
            Decimal.text ⟨n / (Nat.pow 10 (fine - digits) : Nat), digits⟩
          let width := values.foldl (fun w (v : Text) => max w v.length) 0
          let widened (v : Text) : Text :=
            let negative := v.head? = some (CodePoint.ofChar '-')
            let body := if negative then v.tail else v
            (if negative then v.take 1 else []) ++ List.replicate (width - v.length) (CodePoint.ofChar '0') ++ body
          let shown := if g.has 'w' then values.map widened else values
          if shown.isEmpty then c.quiet 0
          else c.printed (Text.joined ((g.value? 's').getD "\n") shown ++ "\n")
      let one : Decimal := ⟨1, 0⟩
      match wrong, g.operands, numbers with
      | some a, _, _ => c.refused ("invalid floating point argument: " ++ quotedValue a) 1
      | none, _, [] => c.missingOperand
      | none, _, [last] => run one one last []
      | none, _, [first, last] => run first one last []
      | none, [_, stepText, _], [first, step, last] => run first step last stepText
      | none, operands, _ => c.refused ("extra operand " ++ quotedValue (operands.getD 3 [])) 1

/-- Prints what an expression comes to. -/
def reckon : Utility := fun c =>
  let args := if c.args.head? = some (Text.ofString "--") then c.args.tail else c.args
  if args.isEmpty then c.refused "missing operand" 2
  else
    match (Reckoner.whole (args.length + 1)).run args with
    | .error message => c.complained message 2
    | .ok (value, rest) =>
      match rest with
      | extra :: _ => c.complained ("syntax error: unexpected argument " ++ quotedValue extra) 2
      | [] => { c.printed (value ++ "\n") with status := if Reckoner.isNull value then 1 else 0 }

end Utility

end LspEndpoint.Program
