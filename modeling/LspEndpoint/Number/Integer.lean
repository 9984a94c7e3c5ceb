import LspEndpoint.Text.Blank
import LspEndpoint.Text.Digit
import LspEndpoint.Text.Quoted

/-!
Integers written by hand: blanks around, an optional sign, digits of any script, single underscores
between digits. More than 4300 digits are refused before the number is formed.
-/
namespace LspEndpoint

inductive IntegerError
  | malformed (text : Text)
  | tooManyDigits (count : Nat)
deriving DecidableEq

/-- The most digits that an integer may be read from. -/
def maxIntegerDigits : Nat := 4300

namespace IntegerError

/-- A quoted text stands in the message with at most 200 of its characters. -/
def message : IntegerError → Text
  | .malformed t => "invalid literal for int() with base 10: " ++ t.quoted.take 200
  | .tooManyDigits n =>
    "Exceeds the limit (4300 digits) for integer string conversion: value has " ++ Text.ofNat n ++
      " digits; use sys.set_int_max_str_digits() to increase the limit"

end IntegerError

namespace Integer

/-- Whether an integer has few enough digits to be shown. -/
def isShown (n : Int) : Bool := n.natAbs < Nat.pow 10 maxIntegerDigits

/-- Why an integer is not shown. -/
def unshownMessage : Text :=
  "Exceeds the limit (4300 digits) for integer string conversion; use sys.set_int_max_str_digits() " ++
    "to increase the limit"

/-- The blanks that may stand around an integer; the information separators may not. -/
def isMargin (c : CodePoint) : Bool := c.isBlank && !(0x1C ≤ c.val && c.val ≤ 0x1F)

/-- The value of a run of digits, how many there are, and what follows; `due` says that a digit
must come next. -/
def digits (due : Bool) (value count : Nat) : Text → Option (Nat × Nat × Text)
  | [] => if due then none else some (value, count, [])
  | c :: t =>
    match c.decimalValue? with
    | some d => digits false (value * 10 + d) (count + 1) t
    | none =>
      if due then none
      else if c = '_' then digits true value count t
      else some (value, count, c :: t)

/-- The sign, and what follows it. -/
def sign : Text → Bool × Text
  | [] => (false, [])
  | c :: t => if c = '-' then (true, t) else if c = '+' then (false, t) else (false, c :: t)

def read (text : Text) : Except IntegerError Int :=
  let (negative, body) := sign (text.dropWhile isMargin)
  match digits true 0 0 body with
  | none => .error (.malformed text)
  | some (value, count, rest) =>
    if maxIntegerDigits < count then .error (.tooManyDigits count)
    else if rest.all isMargin then .ok (if negative then -(value : Int) else value)
    else .error (.malformed text)

example : read " -1_000 " = .ok (-1000) := by rfl

example : read "1__0" = .error (.malformed "1__0") := by rfl

end Integer

end LspEndpoint
