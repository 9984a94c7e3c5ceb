import LspEndpoint.Number.Integer

/-!
Numbers survive being written out. The digits that a number is written with are read back as that number,
as long as there are no more of them than a reader takes.
-/
namespace LspEndpoint

namespace CodePoint

theorem isDigit_ofChar {c : Char} (h : c.isDigit) : (ofChar c).isDigit := by
  simp only [Char.isDigit, Bool.and_eq_true, decide_eq_true_eq, ge_iff_le, UInt32.le_iff_toNat_le] at h
  simp only [isDigit, ofChar, Bool.and_eq_true]
  exact ⟨decide_eq_true h.1, decide_eq_true h.2⟩

theorem digitValue_ofChar (c : Char) : (ofChar c).digitValue = c.toNat - '0'.toNat := rfl

theorem isBlank_of_isDigit {c : CodePoint} (h : c.isDigit) : c.isBlank = false := by
  simp only [isDigit, Bool.and_eq_true, decide_eq_true_eq] at h
  simp only [isBlank, Bool.or_eq_false_iff, Bool.and_eq_false_iff, decide_eq_false_iff_not,
    beq_eq_false_iff_ne]
  omega

end CodePoint

namespace Text

theorem isDigit_of_mem_ofNat {n : Nat} {c : CodePoint} (h : c ∈ ofNat n) : c.isDigit := by
  obtain ⟨d, hd, rfl⟩ := List.mem_map.1 h
  exact CodePoint.isDigit_ofChar (Nat.isDigit_of_mem_toDigits (by decide) (by decide) hd)

theorem ofNat_ne_nil (n : Nat) : ofNat n ≠ [] := by
  simp [ofNat]

end Text

namespace Integer

theorem isMargin_of_isDigit {c : CodePoint} (h : c.isDigit) : isMargin c = false := by
  rw [isMargin, CodePoint.isBlank_of_isDigit h, Bool.false_and]

/-- Digits are read to the last, each after the first being worth a tenth of the one before. -/
theorem digits_map_ofChar {cs : List Char} (h : ∀ c ∈ cs, c.isDigit) (hn : cs ≠ [])
    (due : Bool) (value count : Nat) :
    digits due value count (cs.map CodePoint.ofChar) =
      some (Nat.ofDigitChars 10 cs value, count + cs.length, []) := by
  induction cs generalizing due value count with
  | nil => exact absurd rfl hn
  | cons c cs ih =>
    have hc := CodePoint.decimalValue?_of_isDigit _
      (CodePoint.isDigit_ofChar (h c (List.mem_cons_self ..)))
    rw [List.map_cons, digits, hc]
    simp only [CodePoint.digitValue_ofChar, Nat.ofDigitChars_cons, List.length_cons]
    rw [Nat.mul_comm value 10]
    by_cases hcs : cs = []
    · simp [hcs, digits]
    · rw [ih (fun d hd => h d (List.mem_cons_of_mem _ hd)) hcs]
      simp only [Nat.add_assoc, Nat.add_comm 1]

theorem digits_ofNat (n : Nat) :
    digits true 0 0 (Text.ofNat n) = some (n, (Nat.toDigits 10 n).length, []) := by
  rw [Text.ofNat, digits_map_ofChar (fun c hc => Nat.isDigit_of_mem_toDigits (by decide) (by decide) hc)
    Nat.toDigits_ne_nil, Nat.ofDigitChars_toDigits (by decide) (by decide), Nat.zero_add]

/-- Integers of few digits can be shown. -/
theorem isShown_of_natAbs_lt {n : Int} (h : n.natAbs < 100000) : isShown n := by
  have hk : 5 ≤ maxIntegerDigits := by decide
  have hpow : 100000 = 10 ^ 5 := rfl
  rw [hpow] at h
  unfold isShown
  -- The bound stays a variable, so that no power of ten is worked out.
  generalize maxIntegerDigits = k at hk ⊢
  exact decide_eq_true (Nat.lt_of_lt_of_le h (Nat.pow_le_pow_right (by decide) hk))

/-- A number that is shown has no more digits than a reader takes. -/
theorem length_ofNat_le {n : Int} (h : isShown n) : (Text.ofNat n.natAbs).length ≤ maxIntegerDigits := by
  have hk : 0 < maxIntegerDigits := by decide
  unfold isShown at h
  -- The bound stays a variable, so that no power of ten is worked out.
  generalize maxIntegerDigits = k at h hk ⊢
  rw [Text.ofNat, List.length_map]
  exact (Nat.length_toDigits_le_iff (by decide) hk).2 (of_decide_eq_true h)

/-- Digits alone are read as the number they show, if there are not too many of them. -/
theorem read_digits (n : Nat) :
    read (Text.ofNat n) =
      if maxIntegerDigits < (Text.ofNat n).length then .error (.tooManyDigits (Text.ofNat n).length)
      else .ok n := by
  obtain ⟨c, t, ht⟩ := List.exists_cons_of_ne_nil (Text.ofNat_ne_nil n)
  have hc : c.isDigit := Text.isDigit_of_mem_ofNat (n := n) (by rw [ht]; exact List.mem_cons_self ..)
  have hv : 0x30 ≤ c.val := by
    simp only [CodePoint.isDigit, Bool.and_eq_true, decide_eq_true_eq] at hc
    exact hc.1
  have hs : sign (Text.ofNat n) = (false, Text.ofNat n) := by
    have hminus : c ≠ CodePoint.ofChar '-' := fun e => absurd (e ▸ hv) (by decide)
    have hplus : c ≠ CodePoint.ofChar '+' := fun e => absurd (e ▸ hv) (by decide)
    rw [ht, sign, if_neg hminus, if_neg hplus]
  have hm : (Text.ofNat n).dropWhile isMargin = Text.ofNat n := by
    rw [ht, List.dropWhile_cons_of_neg (by simp [isMargin_of_isDigit hc])]
  have hl : (Text.ofNat n).length = (Nat.toDigits 10 n).length := List.length_map ..
  simp only [read, hm, hs, digits_ofNat, hl, List.all_nil, if_true, Bool.false_eq_true, if_false]

/-- A number that is shown is read back from its digits. -/
theorem read_ofNat {n : Nat} (h : isShown n) : read (Text.ofNat n) = .ok n := by
  have hl : (Text.ofNat n).length ≤ maxIntegerDigits := length_ofNat_le h
  rw [read_digits, if_neg (Nat.not_lt.2 hl)]

end Integer

end LspEndpoint
