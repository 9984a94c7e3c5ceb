import LspEndpoint.Program.Format
import LspEndpoint.Text.Pieces

/-!
Numbers in arguments of programs, and numbers in columns.
-/
namespace LspEndpoint.Program

/-- What a letter behind a number multiplies it by, in powers of 1024. -/
def magnitude? (c : CodePoint) : Option Nat :=
  if c = 'K' || c = 'k' then some 1
  else if c = 'M' || c = 'm' then some 2
  else if c = 'G' then some 3
  else if c = 'T' then some 4
  else if c = 'P' then some 5
  else none

/-- The factor that a unit behind a number stands for. -/
def factor? : Text → Option Nat
  | [] => some 1
  | [c] => if c = 'b' then some 512 else (magnitude? c).map (Nat.pow 1024)
  | [c, d] => if d = 'B' then (magnitude? c).map (Nat.pow 1000) else none
  | [c, d, e] => if d = 'i' && e = 'B' then (magnitude? c).map (Nat.pow 1024) else none
  | _ => none

/-- A number with a unit. -/
def amount? (t : Text) : Option Nat :=
  let digits := t.takeWhile CodePoint.isDigit
  if digits = [] then none
  else (factor? (t.drop digits.length)).map fun f => decimalValue digits * f

/-- A text in a column of that width. -/
def aligned (width : Nat) (t : Text) : Text :=
  List.replicate (width - t.length) (CodePoint.ofChar ' ') ++ t

/-- The lines of a text, each with its line end if there is one. -/
def linesOf (t : Text) : List Text :=
  let (done, current) := t.foldl
    (fun ((done, current) : List Text × Text) c =>
      if c.val = 10 then ((c :: current).reverse :: done, []) else (done, c :: current))
    ([], [])
  (if current.isEmpty then done else current.reverse :: done).reverse

/-- The lines of a text without their ends. -/
def bareLines (t : Text) : List Text := (linesOf t).map Text.withoutLineFeed

end LspEndpoint.Program
