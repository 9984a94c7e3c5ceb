import LspEndpoint.Text.CodePoint

/-!
Lengths in UTF-16 code units. A supplementary code point takes two units; a lone surrogate has no
UTF-16 form and so no length.
-/
namespace LspEndpoint

namespace CodePoint

def units (c : CodePoint) : Nat := if c.val < 0x10000 then 1 else 2

theorem units_pos (c : CodePoint) : 0 < c.units := by
  unfold units
  split <;> decide

theorem units_le_two (c : CodePoint) : c.units ≤ 2 := by
  unfold units
  split <;> decide

end CodePoint

namespace Text

def units : Text → Nat
  | [] => 0
  | c :: t => c.units + units t

@[simp] theorem units_nil : units [] = 0 := rfl

@[simp] theorem units_cons (c : CodePoint) (t : Text) : units (c :: t) = c.units + units t := rfl

theorem units_append (s t : Text) : units (s ++ t) = units s + units t := by
  induction s with
  | nil => simp
  | cons c s ih => simp only [List.cons_append, units_cons, ih, Nat.add_assoc]

theorem length_le_units (t : Text) : t.length ≤ units t := by
  induction t with
  | nil => exact Nat.le_refl 0
  | cons c t ih =>
    have h := c.units_pos
    simp only [List.length_cons, units_cons]
    omega

end Text

end LspEndpoint
