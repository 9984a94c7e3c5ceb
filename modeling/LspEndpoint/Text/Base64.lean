import LspEndpoint.Text.Utf8

/-!
Bytes written as base-64 digits. Characters that are no digits are passed over; a padded group ends the
text, and a group that is neither whole nor padded is wrong.
-/
namespace LspEndpoint.Base64

def digitValue? (c : CodePoint) : Option Nat :=
  if 0x41 ≤ c.val ∧ c.val ≤ 0x5A then some (c.val - 0x41)
  else if 0x61 ≤ c.val ∧ c.val ≤ 0x7A then some (c.val - 0x47)
  else if c.isDigit then some (c.digitValue + 52)
  else if c = '+' then some 62
  else if c = '/' then some 63
  else none

/-- Reads on in a group of `place` digits whose last bits are `left`; `pads` marks of padding follow
its last digit. -/
def readFrom (place left pads : Nat) : Text → Option Bytes
  | [] => if place = 0 then some [] else none
  | c :: t =>
    if c = '=' then
      if 2 ≤ place && 4 ≤ place + pads + 1 then some []
      else readFrom place left (if 2 ≤ place then pads + 1 else pads) t
    else
      match digitValue? c with
      | none => readFrom place left pads t
      | some d =>
        let put (n : Nat) (rest : Option Bytes) : Option Bytes := rest.map (UInt8.ofNat n :: ·)
        if place = 0 then readFrom 1 d 0 t
        else if place = 1 then put (left * 4 + d / 16) (readFrom 2 (d % 16) 0 t)
        else if place = 2 then put (left * 16 + d / 4) (readFrom 3 (d % 4) 0 t)
        else put (left * 64 + d) (readFrom 0 0 0 t)

def read? (t : Text) : Option Bytes := readFrom 0 0 0 t

example : read? "a!G k=" = some [0x68, 0x69] := by decide +kernel

example : read? "aGk" = none := by decide +kernel

end LspEndpoint.Base64
