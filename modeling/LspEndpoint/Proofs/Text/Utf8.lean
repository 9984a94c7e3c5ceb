import LspEndpoint.Text.Utf8

/-!
Text survives UTF-8. The bytes of a code point that is no surrogate are read back as that code point from
wherever the reader stands between two code points.
-/
namespace LspEndpoint

namespace Bytes

theorem begin_ascii (read : Text) {n : Nat} (h : n < 0x80) :
    Bytes.begin read (UInt8.ofNat n) = ⟨CodePoint.ofNat n :: read, none⟩ := by
  have hn : (UInt8.ofNat n).toNat = n := UInt8.toNat_ofNat_of_lt' (Nat.lt_trans h (by decide))
  simp only [Bytes.begin, UInt8.lt_iff_toNat_lt, hn]
  exact if_pos h

/-- The first byte of a sequence of two. -/
theorem begin_two (read : Text) {n : Nat} (h : 2 ≤ n) (h' : n < 0x20) :
    Bytes.begin read (UInt8.ofNat (0xC0 + n)) = ⟨read, some ⟨n, 1, 0x80, 0xBF⟩⟩ := by
  have hn : (UInt8.ofNat (0xC0 + n)).toNat = 0xC0 + n := UInt8.toNat_ofNat_of_lt' (by
    simp only [UInt8.size]
    omega)
  simp only [Bytes.begin, UInt8.lt_iff_toNat_lt, hn, UInt8.reduceToNat]
  rw [if_neg (by omega), if_neg (by omega), if_pos (by omega), Nat.add_sub_cancel_left]

/-- The first byte of a sequence of three; what may follow keeps out sequences that are too long, and
surrogates. -/
theorem begin_three (read : Text) {n : Nat} (h : n < 0x10) :
    Bytes.begin read (UInt8.ofNat (0xE0 + n)) =
      ⟨read, some ⟨n, 2, if n = 0 then 0xA0 else 0x80, if n = 0xD then 0x9F else 0xBF⟩⟩ := by
  have hn : (UInt8.ofNat (0xE0 + n)).toNat = 0xE0 + n := UInt8.toNat_ofNat_of_lt' (by
    simp only [UInt8.size]
    omega)
  simp only [Bytes.begin, UInt8.lt_iff_toNat_lt, ← UInt8.toNat_inj, hn, UInt8.reduceToNat]
  rw [if_neg (by omega), if_neg (by omega), if_neg (by omega)]
  by_cases h0 : n = 0
  · rw [h0]
    rfl
  · rw [if_neg (by omega), if_neg h0]
    by_cases hD : n = 0xD
    · rw [hD]
      rfl
    · rw [if_neg (by omega), if_pos (by omega), if_neg hD, Nat.add_sub_cancel_left]

/-- The first byte of a sequence of four; what may follow keeps to the code points there are. -/
theorem begin_four (read : Text) {n : Nat} (h : n < 5) :
    Bytes.begin read (UInt8.ofNat (0xF0 + n)) =
      ⟨read, some ⟨n, 3, if n = 0 then 0x90 else 0x80, if n = 4 then 0x8F else 0xBF⟩⟩ := by
  have hn : (UInt8.ofNat (0xF0 + n)).toNat = 0xF0 + n := UInt8.toNat_ofNat_of_lt' (by
    simp only [UInt8.size]
    omega)
  simp only [Bytes.begin, UInt8.lt_iff_toNat_lt, ← UInt8.toNat_inj, hn, UInt8.reduceToNat]
  rw [if_neg (by omega), if_neg (by omega), if_neg (by omega), if_neg (by omega), if_neg (by omega),
    if_neg (by omega)]
  by_cases h0 : n = 0
  · rw [h0]
    rfl
  · rw [if_neg (by omega), if_neg h0]
    by_cases h4 : n = 4
    · rw [h4]
      rfl
    · rw [if_pos (by omega), if_neg h4, Nat.add_sub_cancel_left]

section Tail

variable (read : Text) {bits n : Nat} {low high : UInt8} (h : n < 0x40) (hl : low.toNat ≤ 0x80 + n)
  (hh : 0x80 + n ≤ high.toNat)

include h hl hh

/-- A byte within a sequence adds six bits. -/
theorem step_tail (owed : Nat) :
    Decoding.step ⟨read, some ⟨bits, owed, low, high⟩⟩ (UInt8.ofNat (0x80 + n)) =
      if owed ≤ 1 then ⟨CodePoint.ofNat (bits * 0x40 + n) :: read, none⟩
      else ⟨read, some ⟨bits * 0x40 + n, owed - 1, 0x80, 0xBF⟩⟩ := by
  have hn : (UInt8.ofNat (0x80 + n)).toNat = 0x80 + n := UInt8.toNat_ofNat_of_lt' (by
    simp only [UInt8.size]
    omega)
  simp only [Decoding.step, UInt8.le_iff_toNat_le, hn]
  rw [if_pos ⟨hl, hh⟩, Nat.add_sub_cancel_left]

theorem step_last :
    Decoding.step ⟨read, some ⟨bits, 1, low, high⟩⟩ (UInt8.ofNat (0x80 + n)) =
      ⟨CodePoint.ofNat (bits * 0x40 + n) :: read, none⟩ := by
  rw [step_tail read h hl hh, if_pos (by omega)]

theorem step_next (owed : Nat) :
    Decoding.step ⟨read, some ⟨bits, owed + 2, low, high⟩⟩ (UInt8.ofNat (0x80 + n)) =
      ⟨read, some ⟨bits * 0x40 + n, owed + 1, 0x80, 0xBF⟩⟩ := by
  rw [step_tail read h hl hh, if_neg (by omega)]
  rfl

end Tail

/-- The bytes of a code point are read as that code point. -/
theorem foldl_utf8 (read : Text) {c : CodePoint} (h : c.isScalar) :
    c.utf8.foldl Decoding.step ⟨read, none⟩ = ⟨c :: read, none⟩ := by
  simp only [CodePoint.isScalar, CodePoint.isSurrogate, Bool.not_eq_true', Bool.and_eq_false_iff,
    decide_eq_false_iff_not] at h
  have hc := c.lt
  have hb : Decoding.step ⟨read, none⟩ = Bytes.begin read := rfl
  unfold CodePoint.utf8
  split
  · simp only [List.foldl_cons, List.foldl_nil, hb]
    rw [begin_ascii read ‹_›, CodePoint.ofNat_val]
  split
  · simp only [List.foldl_cons, List.foldl_nil, hb]
    have hv : c.val / 0x40 * 0x40 + c.val % 0x40 = c.val := by omega
    rw [begin_two read (by omega) (by omega),
      step_last read (by omega) (by simp) (by simp only [UInt8.reduceToNat]; omega), hv,
      CodePoint.ofNat_val]
  split
  · simp only [List.foldl_cons, List.foldl_nil, hb]
    have hv : (c.val / 0x1000 * 0x40 + c.val / 0x40 % 0x40) * 0x40 + c.val % 0x40 = c.val := by omega
    rw [begin_three read (by omega), step_next read (by omega) ?_ ?_,
      step_last read (by omega) (by simp) (by simp only [UInt8.reduceToNat]; omega), hv,
      CodePoint.ofNat_val]
    · split <;> simp only [UInt8.reduceToNat] <;> omega
    · split <;> simp only [UInt8.reduceToNat] <;> omega
  · simp only [List.foldl_cons, List.foldl_nil, hb]
    have hv : ((c.val / 0x40000 * 0x40 + c.val / 0x1000 % 0x40) * 0x40 + c.val / 0x40 % 0x40) * 0x40 +
        c.val % 0x40 = c.val := by omega
    rw [begin_four read (by omega), step_next read (by omega) ?_ ?_,
      step_next read (by omega) (by simp) (by simp only [UInt8.reduceToNat]; omega),
      step_last read (by omega) (by simp) (by simp only [UInt8.reduceToNat]; omega), hv,
      CodePoint.ofNat_val]
    · split <;> simp only [UInt8.reduceToNat] <;> omega
    · split <;> simp only [UInt8.reduceToNat] <;> omega

theorem foldl_flatMap_utf8 {t : Text} (h : t.isScalar) (read : Text) :
    (t.flatMap CodePoint.utf8).foldl Decoding.step ⟨read, none⟩ = ⟨t.reverse ++ read, none⟩ := by
  induction t generalizing read with
  | nil => rfl
  | cons c t ih =>
    simp only [Text.isScalar, List.all_cons, Bool.and_eq_true] at h
    rw [List.flatMap_cons, List.foldl_append, foldl_utf8 read h.1, ih h.2, List.reverse_cons,
      List.append_assoc]
    rfl

/-- A text without lone surrogates is what its bytes are read as. -/
theorem decode_utf8 {t : Text} (h : t.isScalar) : decode (t.flatMap CodePoint.utf8) = t := by
  rw [decode, foldl_flatMap_utf8 h, Decoding.finish, List.append_nil, List.reverse_reverse]

end Bytes

end LspEndpoint
