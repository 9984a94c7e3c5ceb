import LspEndpoint.Number.Binary64

/-!
The fewest decimal digits that read back as a given double. On the grid of `k` significant digits the
only candidates are the two neighbours of the exact value; the first grid with a hit gives the digits,
the nearer of two hits wins, and an exact tie goes to the even one.
-/
namespace LspEndpoint

/-- The number `digits * 10 ^ exponent`. -/
structure Decimal where
  digits : Nat
  exponent : Int
deriving DecidableEq

namespace Binary64

def digitCount (n : Nat) : Nat := (Nat.toDigits 10 n).length

/-- The least `e` with `num / den < 10 ^ e`. -/
def decimalOrder (num den : Nat) : Int :=
  if den ≤ num then digitCount (num / den) else 1 - (digitCount ((den - 1) / num) : Int)

/-- `num / den` divided by `10 ^ p`, as a quotient. -/
def scaledTen (num den : Nat) (p : Int) : Nat × Nat :=
  if 0 ≤ p then (num, den * Nat.pow 10 p.toNat) else (num * Nat.pow 10 (-p).toNat, den)

/-- Whether `digits * 10 ^ exponent` reads back as the double of that rank. -/
def readsBack (rank : Nat) (d : Decimal) : Bool :=
  ofDecimal false d.digits d.exponent == ofRank false rank

/-- The decimal with digits at `10 ^ p` that reads back and is nearest to `num / den`. -/
def onGrid? (rank num den : Nat) (p : Int) : Option Decimal :=
  let s := scaledTen num den p
  let below : Decimal := ⟨s.1 / s.2, p⟩
  let above : Decimal := ⟨s.1 / s.2 + 1, p⟩
  let twice := 2 * (s.1 % s.2)
  let nearer := if twice < s.2 then below else if s.2 < twice then above
    else if below.digits % 2 = 0 then below else above
  match readsBack rank below, readsBack rank above with
  | true, true => some nearer
  | true, false => some below
  | false, true => some above
  | false, false => none

/-- The shortest decimal of a rank; seventeen digits always suffice. -/
def shortest (rank : Nat) : Decimal :=
  let r := ratioOfRank rank
  let order := decimalOrder r.1 r.2
  ((List.range 17).findSome? fun (k : Nat) => onGrid? rank r.1 r.2 (order - (k + 1))).getD ⟨0, 0⟩

end Binary64

end LspEndpoint
