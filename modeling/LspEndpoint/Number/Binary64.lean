/-!
Double-precision numbers. A finite one is a sign and a rank: the place of its magnitude among all
finite magnitudes in increasing order, so rank zero is zero and adjacent doubles have adjacent ranks.
Every conversion rounds once, to the nearest double, a tie going to the even rank.
-/
namespace LspEndpoint

namespace Binary64

/-- How many doubles there are from one power of two to the next: two to the power of 52. -/
def binade : Nat := 0x10000000000000

/-- How many finite magnitudes there are. -/
def magnitudes : Nat := 2047 * binade

end Binary64

inductive Binary64
  | nan
  | infinite (negative : Bool)
  | finite (negative : Bool) (rank : Fin Binary64.magnitudes)
deriving DecidableEq

namespace Binary64

/-- The nearest integer to a quotient, a half going to the even neighbour. -/
def roundQuotient (num den : Nat) : Nat :=
  let q := num / den
  let twice := 2 * (num % den)
  if twice < den then q else if den < twice then q + 1 else q + q % 2

theorem roundQuotient_of_dvd {num den : Nat} (h : 0 < den) (hd : den ∣ num) :
    roundQuotient num den = num / den := by
  simp [roundQuotient, Nat.mod_eq_zero_of_dvd hd, h]

/-- `num / den` divided by `2 ^ q`, as a quotient. -/
def scaled (num den : Nat) (q : Int) : Nat × Nat :=
  if 0 ≤ q then (num, den * Nat.pow 2 q.toNat) else (num * Nat.pow 2 (-q).toNat, den)

/-- The largest `e` with `2 ^ e ≤ num / den`. -/
def floorLog2 (num den : Nat) : Int :=
  let e : Int := (num.log2 : Int) - den.log2
  let s := scaled num den e
  if s.2 ≤ s.1 then e else e - 1

/-- The rank of the double nearest to a quotient, not bounded above. -/
def rankOfRatio (num den : Nat) : Nat :=
  if num = 0 then 0
  else
    let q := max (floorLog2 num den - 52) (-1074)
    let s := scaled num den q
    (q + 1074).toNat * binade + roundQuotient s.1 s.2

def ofRank (negative : Bool) (rank : Nat) : Binary64 :=
  if h : rank < magnitudes then .finite negative ⟨rank, h⟩ else .infinite negative

/-- The double nearest to a quotient; beyond the largest one, infinity. -/
def ofRatio (negative : Bool) (num den : Nat) : Binary64 := ofRank negative (rankOfRatio num den)

def zero : Binary64 := .finite false ⟨0, by decide⟩

def ofInt (n : Int) : Binary64 := ofRatio (n < 0) n.natAbs 1

/-- The double nearest to `digits * 10 ^ exponent`. Magnitudes that are out of range by their digit
count alone are settled without computing the power. -/
def ofDecimal (negative : Bool) (digits : Nat) (exponent : Int) : Binary64 :=
  if digits = 0 then ofRank negative 0
  else if 310 < exponent + digits.log2 * 3 / 10 then .infinite negative
  else if exponent + digits.log2 / 3 + 1 < -330 then ofRank negative 0
  else if 0 ≤ exponent then ofRatio negative (digits * Nat.pow 10 exponent.toNat) 1
  else ofRatio negative digits (Nat.pow 10 (-exponent).toNat)

/-- The magnitude of a rank as a quotient. -/
def ratioOfRank (rank : Nat) : Nat × Nat :=
  let biased := rank / binade
  let fraction := rank % binade
  if biased = 0 then (fraction, Nat.pow 2 1074)
  else if 1075 ≤ biased then ((binade + fraction) * Nat.pow 2 (biased - 1075), 1)
  else (binade + fraction, Nat.pow 2 (1075 - biased))

/-- A finite double as a signed quotient. -/
def toRatio? : Binary64 → Option (Int × Nat)
  | .finite negative rank =>
    let r := ratioOfRank rank.val
    some (if negative then -(r.1 : Int) else r.1, r.2)
  | _ => none

def ofSigned (num : Int) (den : Nat) : Binary64 := ofRatio (num < 0) num.natAbs den

def neg : Binary64 → Binary64
  | .nan => .nan
  | .infinite negative => .infinite !negative
  | .finite negative rank => .finite (!negative) rank

/-- The rounded sum; infinities of two signs have none. A sum that is zero is positive. -/
def add (a b : Binary64) : Binary64 :=
  match a, b with
  | .infinite m, .infinite n => if m = n then .infinite m else .nan
  | .infinite m, .finite _ _ | .finite _ _, .infinite m => .infinite m
  | a, b =>
    match a.toRatio?, b.toRatio? with
    | some (p, q), some (r, s) => ofSigned (p * s + r * q) (q * s)
    | _, _ => .nan

/-- The rounded difference. -/
def sub (a b : Binary64) : Binary64 := a.add b.neg

def isZero : Binary64 → Bool
  | .finite _ rank => rank.val == 0
  | _ => false

/-- The rounded product; zero and infinity have none. A zero keeps the sign of the product. -/
def mul (a b : Binary64) : Binary64 :=
  match a, b with
  | .finite m i, .finite n j =>
    let r := ratioOfRank i.val
    let s := ratioOfRank j.val
    ofRatio (m != n) (r.1 * s.1) (r.2 * s.2)
  | .infinite m, .infinite n => .infinite (m != n)
  | .infinite m, .finite n _ => if b.isZero then .nan else .infinite (m != n)
  | .finite m _, .infinite n => if a.isZero then .nan else .infinite (m != n)
  | _, _ => .nan

def isFinite : Binary64 → Bool
  | .finite _ _ => true
  | _ => false

def isNaN : Binary64 → Bool
  | .nan => true
  | _ => false

/-- At most zero; NaN is not. -/
def atMostZero : Binary64 → Bool
  | .nan => false
  | .infinite negative => negative
  | .finite negative rank => negative || rank.val == 0

/-- The integer towards zero, of a finite double. -/
def truncate? (x : Binary64) : Option Int :=
  x.toRatio?.map fun r => Int.tdiv r.1 r.2

example : ofDecimal false 1 (-1) = .finite false ⟨0x3FB999999999999A, by decide⟩ := by
  decide +kernel

example : ofDecimal false 5 (-324) = .finite false ⟨1, by decide⟩ := by decide +kernel

example : ofDecimal true 17976931348623159 292 = .infinite true := by decide +kernel

end Binary64

end LspEndpoint
