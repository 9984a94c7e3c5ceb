import LspEndpoint.Params.Basic
import LspEndpoint.Text.Units

/-!
Texts that are ruled into lines. Whichever code points end a line, the position of an index is how many of them stand
before it, and the code units since the last of these. It is found from the back: a code point in front of a text
moves the positions in its first line only, and all others by a line if it ends one.
-/
namespace LspEndpoint.Text

variable (ends : Nat → Bool)

/-- How many line ends there are before an index. -/
def endsBefore (i : Nat) : Nat := (List.range i).countP ends

/-- Where the line of an index starts: behind the last line end before it. -/
def behindEnd : Nat → Nat
  | 0 => 0
  | i + 1 => if ends i then i + 1 else behindEnd i

/-- The position of an index in a text whose lines end there. -/
def ruledAt (t : Text) (i : Nat) : Position :=
  ⟨endsBefore ends i, Text.units ((t.take i).drop (behindEnd ends i))⟩

theorem endsBefore_succ (i : Nat) :
    endsBefore ends (i + 1) = endsBefore ends i + if ends i then 1 else 0 := by
  simp [endsBefore, List.range_succ, List.countP_append, List.countP_cons]

theorem endsBefore_cons (i : Nat) :
    endsBefore ends (i + 1) = endsBefore (fun k => ends (k + 1)) i + if ends 0 then 1 else 0 := by
  rw [endsBefore, List.range_succ_eq_map, List.countP_cons, List.countP_map]
  rfl

theorem behindEnd_of_endsBefore_eq_zero {i : Nat} (h : endsBefore ends i = 0) : behindEnd ends i = 0 := by
  induction i with
  | zero => rfl
  | succ i ih =>
    rw [endsBefore_succ] at h
    by_cases hi : ends i
    · simp [hi] at h
    · rw [behindEnd, if_neg hi]
      exact ih (by omega)

theorem behindEnd_cons (i : Nat) :
    behindEnd ends (i + 1) =
      if endsBefore (fun k => ends (k + 1)) i = 0 then if ends 0 then 1 else 0
      else behindEnd (fun k => ends (k + 1)) i + 1 := by
  induction i with
  | zero => simp [behindEnd, endsBefore]
  | succ i ih =>
    rw [behindEnd, ih, endsBefore_succ]
    by_cases hi : ends (i + 1) <;> simp [hi, behindEnd]

@[simp] theorem ruledAt_zero (t : Text) : ruledAt ends t 0 = ⟨0, 0⟩ := by
  simp [ruledAt, endsBefore]

/-- A line end in front adds a line. Any other code point in front adds its units to the character if the index is in
the first line, and else nothing. -/
theorem ruledAt_cons (c : CodePoint) (t : Text) (i : Nat) :
    ruledAt ends (c :: t) (i + 1) =
      if ends 0 then ⟨(ruledAt (fun k => ends (k + 1)) t i).line + 1, (ruledAt (fun k => ends (k + 1)) t i).character⟩
      else if (ruledAt (fun k => ends (k + 1)) t i).line = 0 then
        ⟨0, c.units + (ruledAt (fun k => ends (k + 1)) t i).character⟩
      else ruledAt (fun k => ends (k + 1)) t i := by
  simp only [ruledAt, endsBefore_cons, behindEnd_cons, List.take_succ_cons]
  by_cases hl : endsBefore (fun k => ends (k + 1)) i = 0
  · rw [behindEnd_of_endsBefore_eq_zero _ hl]
    by_cases h0 : ends 0 <;> simp [hl, h0]
  · by_cases h0 : ends 0 <;> simp [hl, h0]

end LspEndpoint.Text
