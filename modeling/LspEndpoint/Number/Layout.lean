import LspEndpoint.Number.Shortest
import LspEndpoint.Text.CodePoint

/-!
Numbers as text. A double is written with its shortest digits, positionally while its first digit
stands between the fourth place after the point and the sixteenth before it, and otherwise with an
exponent of at least two digits.
-/
namespace LspEndpoint

/-- How the values that are no numbers are spelled. -/
structure FloatWords where
  nan : String
  infinity : String

namespace Binary64

def zeros (n : Nat) : Text := List.replicate n '0'

def withoutTrailingZeros (digits : Text) : Text :=
  (digits.reverse.dropWhile fun c => c.val == 0x30).reverse

/-- The digits with the point after the first `point` of them. -/
def positional (digits : Text) (point : Int) : Text :=
  if point ≤ 0 then "0." ++ zeros (-point).toNat ++ digits
  else if digits.length ≤ point.toNat then digits ++ zeros (point.toNat - digits.length) ++ ".0"
  else digits.take point.toNat ++ "." ++ digits.drop point.toNat

/-- The digits with the point after the first, and the exponent that makes up for it. -/
def exponential (digits : Text) (exponent : Int) : Text :=
  let mark : Text := if exponent < 0 then "e-" else "e+"
  let mantissa := if digits.length ≤ 1 then digits else digits.take 1 ++ "." ++ digits.drop 1
  mantissa ++ mark ++ Text.padded 2 exponent.natAbs

def magnitudeText (rank : Nat) : Text :=
  if rank = 0 then "0.0"
  else
    let d := shortest rank
    let all := Text.ofNat d.digits
    let point := d.exponent + all.length
    let digits := withoutTrailingZeros all
    if -4 < point ∧ point ≤ 16 then positional digits point else exponential digits (point - 1)

def text (words : FloatWords) : Binary64 → Text
  | .nan => words.nan
  | .infinite negative => (if negative then "-" else "") ++ Text.ofString words.infinity
  | .finite negative rank => (if negative then "-" else "") ++ magnitudeText rank.val

end Binary64

example : Binary64.text ⟨"NaN", "Infinity"⟩ (.ofDecimal false 1 16) = Text.ofString "1e+16" := by
  decide +kernel

example : Binary64.text ⟨"NaN", "Infinity"⟩ (.ofDecimal true 25 (-4)) = Text.ofString "-0.0025" := by
  decide +kernel

end LspEndpoint
