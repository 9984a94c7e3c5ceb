import LspEndpoint.Datum.Basic

/-!
The order of the members of a set. Numbers stand in the slots of an open table, each at the first free
slot that its hash leads to; the table is more than twice as large as the set, so one is always free.
Sets with other members keep the order that they were put in.
-/
namespace LspEndpoint.Datum

/-- The prime that hashes of numbers are taken by: one less than two to the power of 61. -/
def hashPrime : Nat := 0x1FFFFFFFFFFFFFFF

/-- How many hashes a machine word holds. -/
def hashWords : Nat := 0x10000000000000000

/-- The hash of a magnitude `num / 2 ^ k`. -/
def hashQuotient (num k : Nat) : Nat :=
  num % hashPrime * Nat.pow 2 ((61 - k % 61) % 61) % hashPrime

/-- A hash with a sign, as a machine word. The word of minus one is taken by that of minus two. -/
def signedHash (negative : Bool) (hash : Nat) : Nat :=
  if !negative || hash = 0 then hash
  else if hash = 1 then hashWords - 2 else hashWords - hash

/-- The hash of a number; none of anything else, and of what is no number. -/
def hash? : Datum → Option Nat
  | .bool b => some (if b then 1 else 0)
  | .int n => some (signedHash (n < 0) (hashQuotient n.natAbs 0))
  | .float (.infinite negative) => some (signedHash negative 314159)
  | .float x => x.toRatio?.map fun r => signedHash (r.1 < 0) (hashQuotient r.1.natAbs r.2.log2)
  | _ => none

/-- The number of slots: the least power of two above twice the size, but at least eight. -/
def slotCount (size : Nat) : Nat :=
  if size < 5 then 8 else Nat.pow 2 ((2 * size).log2 + 1)

/-- The first free slot that a hash leads to: slots are tried in runs of up to ten, each behind a jump. -/
def freeSlot? (isFree : Nat → Bool) (count : Nat) : (bound hash slot : Nat) → Option Nat
  | 0, _, _ => none
  | bound + 1, hash, slot =>
    let run := if slot + 9 < count then 10 else 1
    match ((List.range run).map (slot + ·)).find? isFree with
    | some i => some i
    | none =>
      let hash := hash / 32
      freeSlot? isFree count bound hash ((slot * 5 + 1 + hash) % count)

/-- Puts a member at the first free slot. -/
def place (slots : List (Nat × Datum)) (count hash : Nat) (v : Datum) : List (Nat × Datum) :=
  let isFree (i : Nat) : Bool := slots.all fun s => s.1 ≠ i
  match freeSlot? isFree count (2 * count + 13) hash (hash % count) with
  | some i => (slots.takeWhile fun s => s.1 < i) ++ (i, v) :: slots.dropWhile fun s => s.1 < i
  | none => slots ++ [(count, v)]

/-- The members in the order that they show in. -/
def setOrder (members : List Datum) : List Datum :=
  match members.mapM hash? with
  | none => members
  | some hashes =>
    let count := slotCount members.length
    let slots := (hashes.zip members).foldl (fun slots m => place slots count m.1 m.2) []
    slots.map Prod.snd

example : (setOrder [.int 9, .int (-1), .int 8]).map integral? = [some 8, some 9, some (-1)] := by
  decide +kernel

end LspEndpoint.Datum
