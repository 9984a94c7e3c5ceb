import LspEndpoint.Program.Format
import LspEndpoint.Program.Option

/-!
Programs that print, wait, or do nothing.
-/
namespace LspEndpoint.Program

/-- The escapes of programs that stand on their own. -/
def standalone : Escapes := ⟨true, true, true, false⟩

/-- The flags of an option that has no others than `n`, `e` and `E`. -/
def echoFlags? : Text → Option Text
  | c :: d :: t =>
    if c = '-' && (d :: t).all fun f => f = 'n' || f = 'e' || f = 'E' then some (d :: t) else none
  | _ => none

/-- Arguments with spaces between them, escapes read if wanted, and a line end unless the output was
ended before. -/
def echoText (escapes newline : Bool) : List Text → Text
  | [] => if newline then "\n" else []
  | a :: args =>
    match echoFlags? a with
    | none =>
      let line := Text.joined " " (a :: args)
      let (t, ending) := if escapes then unescape standalone line else (line, .goesOn)
      if newline && ending = .goesOn then t ++ "\n" else t
    | some flags =>
      let escapes := flags.foldl
        (fun (on : Bool) (f : CodePoint) => if f = 'e' then true else if f = 'E' then false else on)
        escapes
      echoText escapes (newline && flags.all fun f => f ≠ 'n') args

/-- The arguments behind a separator of options. -/
def behindSeparator : List Text → List Text
  | [] => []
  | a :: args => if a = "--" then args else a :: args

/-- The seconds in a unit of time. -/
def unit? : Text → Option Nat
  | [] => some 1
  | [c] => if c = 's' then some 1 else if c = 'm' then some 60 else if c = 'h' then some 3600
      else if c = 'd' then some 86400 else none
  | _ => none

/-- An interval in milliseconds, or without end. -/
inductive Interval
  | milliseconds (n : Nat)
  | endless
deriving DecidableEq

/-- The interval of a number that is not negative, and a unit unless it is seconds. -/
def interval? (t : Text) : Option Interval := do
  let (r, _, rest) ← Rounded.read? Precision.double t
  let seconds ← unit? rest
  match r.magnitude with
  | .nan => none
  | .infinite => if r.isNegative then none else some .endless
  | .finite mantissa exponent =>
    if r.isNegative && mantissa ≠ 0 then none
    else
      let (num, den) := Rounded.ratio mantissa exponent
      some (.milliseconds (num * 1000 * seconds / den))

namespace Utility

def succeed : Utility := fun c => c.quiet 0

def fail : Utility := fun c => c.quiet 1

/-- Prints its arguments. Where the standard is kept, escapes are always read, and options only behind `-n`. -/
def echo : Utility := fun c =>
  if c.isStrict then
    let isCut := c.args.head? = some (Text.ofString "-n")
    let args := if isCut then c.args.dropWhile fun a => (echoFlags? a).isSome else c.args
    let (t, ending) := unescape standalone (Text.joined " " args)
    c.printed (if !isCut && ending = .goesOn then t ++ "\n" else t)
  else c.printed (echoText false true c.args)

def printf : Utility := fun c =>
  match behindSeparator c.args with
  | [] => c.missingOperand
  | text :: args =>
    let (chunks, status) :=
      print ⟨⟨false, true, true, true⟩, .extended, c.name ++ ": ", false, c.isStrict⟩ text args
    { c.quiet status with chunks }

def sleep : Utility := fun c =>
  c.withOptions ⟨[], [], false⟩ fun g =>
    match g.operands, g.operands.filter fun (a : Text) => (interval? a).isNone with
    | [], _ => c.missingOperand
    | _, [] =>
      let intervals := g.operands.filterMap interval?
      if intervals.contains .endless then { c.quiet 0 with isEndless := true }
      else
        let elapsed := intervals.foldl (fun n i => match i with
          | .milliseconds m => n + m
          | .endless => n) 0
        { c.quiet 0 with elapsed }
    | _, wrong =>
      let lines := Text.joined ("\n" ++ c.name ++ ": ")
        (wrong.map fun a => "invalid time interval " ++ quotedValue a)
      c.refused lines 1

/-- One line over and over: as much as is ever looked at of it. -/
def yes : Utility := fun c =>
  let line : Text := (if c.args.isEmpty then Text.ofString "y" else Text.joined " " c.args) ++ "\n"
  { c.quiet 0 with
    chunks := [⟨false, (List.replicate (65536 / line.length + 1) line).flatten⟩], isEndless := true }

end Utility

end LspEndpoint.Program
