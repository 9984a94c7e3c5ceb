import LspEndpoint.Number.Binary64
import LspEndpoint.Number.Integer

/-!
Decimal numbers written by hand, as doubles: blanks around, an optional sign, digits of any script with
an optional point and exponent, or a word for infinity or for no number.
-/
namespace LspEndpoint.Decimal

/-- The digits that come next, as numbers, and what follows them. -/
def digitRun (t : Text) : List Nat × Text :=
  let run := t.takeWhile fun c => c.decimalValue?.isSome
  (run.filterMap CodePoint.decimalValue?, t.drop run.length)

def valueOf (digits : List Nat) : Nat := digits.foldl (fun n d => n * 10 + d) 0

/-- An exponent behind its letter, zero if there is none. -/
def exponent? : Text → Option (Int × Text)
  | [] => some (0, [])
  | c :: t =>
    if c = 'e' || c = 'E' then
      let (negative, t) := Integer.sign t
      match digitRun t with
      | ([], _) => none
      | (digits, rest) =>
        let n : Int := valueOf digits
        some (if negative then -n else n, rest)
    else some (0, c :: t)

/-- The digits behind a point, if one comes next. -/
def fraction : Text → List Nat × Text
  | [] => ([], [])
  | c :: t => if c = '.' then digitRun t else ([], c :: t)

def magnitude? (negative : Bool) (t : Text) : Option (Binary64 × Text) :=
  let (whole, t) := digitRun t
  let (part, t) := fraction t
  if whole = [] ∧ part = [] then none
  else
    (exponent? t).map fun (e, rest) =>
      (Binary64.ofDecimal negative (valueOf (whole ++ part)) (e - part.length), rest)

/-- Numbers that are spelled as words, in any case. -/
def word? (negative : Bool) (t : Text) : Option Binary64 :=
  let t := t.toAsciiLower
  if t = "inf" ∨ t = "infinity" then some (.infinite negative)
  else if t = "nan" then some .nan
  else none

def read? (text : Text) : Option Binary64 :=
  let (negative, t) := Integer.sign (text.dropWhile Integer.isMargin)
  let t := (t.reverse.dropWhile Integer.isMargin).reverse
  match word? negative t with
  | some x => some x
  | none =>
    match magnitude? negative t with
    | some (x, []) => some x
    | _ => none

example : read? " -1.5e+1 " = some (Binary64.ofInt (-15)) := by decide +kernel

end LspEndpoint.Decimal
