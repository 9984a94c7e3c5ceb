import LspEndpoint.Number.Binary64
import LspEndpoint.Number.Layout
import LspEndpoint.Text.CodePoint

/-!
Binary numbers of a chosen precision, read from text and written with a chosen number of digits. Both
round once, to the nearest number, a tie going to the even one.
-/
namespace LspEndpoint

/-- How many binary digits a number has, and the least and the largest place of a digit. -/
structure Precision where
  digits : Nat
  least : Int
  largest : Int

namespace Precision

def double : Precision := ⟨53, -1074, 1023⟩

def extended : Precision := ⟨64, -16445, 16383⟩

end Precision

/-- The magnitude `mantissa * 2 ^ exponent`, or none that can be written. -/
inductive Magnitude
  | finite (mantissa : Nat) (exponent : Int)
  | infinite
  | nan
deriving DecidableEq

structure Rounded where
  isNegative : Bool
  magnitude : Magnitude

namespace Rounded

/-- The nearest magnitude to a quotient, and whether it is out of range. -/
def ofRatio (p : Precision) (num den : Nat) : Magnitude × Bool :=
  if num = 0 then (.finite 0 0, false)
  else
    let exponent := max (Binary64.floorLog2 num den - p.digits + 1) p.least
    let s := Binary64.scaled num den exponent
    let mantissa := Binary64.roundQuotient s.1 s.2
    if mantissa = 0 then (.finite 0 0, true)
    else if p.largest < exponent + mantissa.log2 then (.infinite, true)
    else if mantissa.log2 = p.digits then (.finite (mantissa / 2) (exponent + 1), false)
    else (.finite mantissa exponent, s.1 % s.2 ≠ 0 && mantissa.log2 + 1 < p.digits)

/-- The nearest magnitude to `digits * base ^ exponent`; a base of two or ten. What is far out of range is
settled without computing the power. -/
def ofPower (p : Precision) (digits base : Nat) (exponent : Int) : Magnitude × Bool :=
  let bits (n : Int) : Int := if base = 10 then n * exponent else exponent
  if digits = 0 then (.finite 0 0, false)
  else if 40000 < digits.log2 + bits (if 0 ≤ exponent then 3 else 4) then (.infinite, true)
  else if digits.log2 + bits (if 0 ≤ exponent then 4 else 3) < -40000 then (.finite 0 0, true)
  else if 0 ≤ exponent then ofRatio p (digits * Nat.pow base exponent.toNat) 1
  else ofRatio p digits (Nat.pow base (-exponent).toNat)

/-- Digits of a base around a point: their value, how many stand behind the point, and how much of the
text they take. -/
def pointed? (base : Nat) (t : Text) : Option (Nat × Nat × Nat) :=
  let isDigit (c : CodePoint) : Bool := (c.hexValue?.map fun n => decide (n < base)).getD false
  let whole := t.takeWhile isDigit
  let rest := t.drop whole.length
  let fraction := if rest.head? = some (CodePoint.ofChar '.') then rest.tail.takeWhile isDigit else []
  let hasPoint := rest.head? = some (CodePoint.ofChar '.')
  let all := whole ++ fraction
  if all = [] then none
  else some (all.foldl (fun n c => n * base + c.hexValue?.getD 0) 0, fraction.length,
    all.length + if hasPoint then 1 else 0)

/-- An exponent behind its letter, and how much of the text it takes. -/
def exponent (lower upper : Char) (t : Text) : Int × Nat :=
  match t with
  | c :: rest =>
    if c = lower || c = upper then
      let isSigned := rest.head? = some (CodePoint.ofChar '-') || rest.head? = some (CodePoint.ofChar '+')
      let ds := (if isSigned then rest.tail else rest).takeWhile CodePoint.isDigit
      let n : Int := (ds.take 9).foldl (fun n c => n * 10 + c.digitValue) 0
      if ds = [] then (0, 0)
      else (if rest.head? = some (CodePoint.ofChar '-') then -n else n,
        1 + ds.length + if isSigned then 1 else 0)
    else (0, 0)
  | [] => (0, 0)

/-- The magnitude at the start of a text, whether it is out of range, and what follows it. -/
def magnitude? (p : Precision) (t : Text) : Option (Magnitude × Bool × Text) :=
  let lower := t.toAsciiLower
  if lower.startsWith "infinity" then some (.infinite, false, t.drop 8)
  else if lower.startsWith "inf" then some (.infinite, false, t.drop 3)
  else if lower.startsWith "nan" then some (.nan, false, t.drop 3)
  else
    match if lower.startsWith "0x" then pointed? 16 (t.drop 2) else none with
    | some (digits, places, taken) =>
      let (e, more) := exponent 'p' 'P' (t.drop (2 + taken))
      let (m, isOut) := ofPower p digits 2 (e - 4 * places)
      some (m, isOut, t.drop (2 + taken + more))
    | none =>
      (pointed? 10 t).map fun (digits, places, taken) =>
        let (e, more) := exponent 'e' 'E' (t.drop taken)
        let (m, isOut) := ofPower p digits 10 (e - places)
        (m, isOut, t.drop (taken + more))

/-- The number at the start of a text behind blanks and a sign. -/
def read? (p : Precision) (t : Text) : Option (Rounded × Bool × Text) :=
  let t := t.dropWhile fun (c : CodePoint) => c = ' ' || (9 ≤ c.val && c.val ≤ 13)
  let isNegative := t.head? = some (CodePoint.ofChar '-')
  let t := if isNegative || t.head? = some (CodePoint.ofChar '+') then t.tail else t
  (magnitude? p t).map fun (m, isOut, rest) => (⟨isNegative, m⟩, isOut, rest)

/-! Writing. A magnitude is given as a quotient. -/

def ratio (mantissa : Nat) (exponent : Int) : Nat × Nat :=
  if 0 ≤ exponent then (mantissa * Nat.pow 2 exponent.toNat, 1)
  else (mantissa, Nat.pow 2 (-exponent).toNat)

/-- Digits with a point in front of the last `places` of them. -/
def withPoint (digits : Text) (places : Nat) (keepsPoint : Bool) : Text :=
  let padded := Binary64.zeros (places + 1 - digits.length) ++ digits
  let whole := padded.take (padded.length - places)
  if places = 0 then (if keepsPoint then whole ++ "." else whole)
  else whole ++ "." ++ padded.drop (padded.length - places)

def fixed (r : Nat × Nat) (places : Nat) (keepsPoint : Bool) : Text :=
  withPoint (Text.ofNat (Binary64.roundQuotient (r.1 * Nat.pow 10 places) r.2)) places keepsPoint

/-- The quotient divided by a power of ten. -/
def shifted (r : Nat × Nat) (e : Int) : Nat × Nat :=
  if 0 ≤ e then (r.1, r.2 * Nat.pow 10 e.toNat) else (r.1 * Nat.pow 10 (-e).toNat, r.2)

/-- The place of the first decimal digit. -/
def decimalPlace (r : Nat × Nat) : Int :=
  let guess : Int := (Nat.toDigits 10 r.1).length - (Nat.toDigits 10 r.2).length
  let s := shifted r guess
  if s.2 ≤ s.1 then guess else guess - 1

/-- So many significant digits, and the place of the first. -/
def significant (r : Nat × Nat) (digits : Nat) : Nat × Int :=
  if r.1 = 0 then (0, 0)
  else
    let place := decimalPlace r
    let s := shifted r (place - digits + 1)
    let n := Binary64.roundQuotient s.1 s.2
    if Nat.pow 10 digits ≤ n then (n / 10, place + 1) else (n, place)

def exponentText (mark : Char) (least : Nat) (e : Int) : Text :=
  [CodePoint.ofChar mark, CodePoint.ofChar (if e < 0 then '-' else '+')] ++ Text.padded least e.natAbs

def scientific (r : Nat × Nat) (places : Nat) (keepsPoint : Bool) : Text :=
  let (n, place) := significant r (places + 1)
  withPoint (Text.padded (places + 1) n) places keepsPoint ++ exponentText 'e' 2 place

/-- Without zeros at the end of a fraction, and, if it need not be kept, without a point behind which
nothing is left. -/
def withoutZeros (t : Text) (keepsPoint : Bool) : Text :=
  if t.contains (CodePoint.ofChar '.') then
    let kept := t.reverse.dropWhile (· = CodePoint.ofChar '0')
    (if keepsPoint then kept else kept.dropWhile (· = CodePoint.ofChar '.')).reverse
  else t

/-- The shorter notation for so many significant digits. -/
def general (r : Nat × Nat) (digits : Nat) (keepsZeros : Bool) : Text :=
  let digits := max digits 1
  let (n, place) := significant r digits
  let trim (t : Text) : Text := if keepsZeros then t else withoutZeros t false
  if place < -4 || (digits : Int) ≤ place then
    trim (withPoint (Text.padded digits n) (digits - 1) keepsZeros) ++ exponentText 'e' 2 place
  else trim (fixed r ((digits : Int) - 1 - place).toNat keepsZeros)

/-- The hexadecimal notation, with four binary digits in front of the point for an extended precision and
one for others. -/
def hexadecimal (p : Precision) (mantissa : Nat) (exponent : Int) (places : Option Nat)
    (keepsPoint : Bool) : Text :=
  let lead := if p.digits = 64 then 4 else 1
  let full := (p.digits - lead) / 4
  let shift := p.digits - 1 - mantissa.log2
  let m := if mantissa = 0 then 0 else mantissa * Nat.pow 2 shift
  let places' := (places.getD full)
  let cut := Nat.pow 16 (full - min full places')
  let n := Binary64.roundQuotient m cut
  let digits : Text := (Nat.toDigits 16 n).map CodePoint.ofChar
  let shown := withPoint (digits ++ Binary64.zeros (places' - min full places')) places' keepsPoint
  let e : Int := if mantissa = 0 then 0 else exponent - shift + 4 * full
  "0x" ++ (if places.isNone then withoutZeros shown keepsPoint else shown) ++ exponentText 'p' 1 e

end Rounded

end LspEndpoint
