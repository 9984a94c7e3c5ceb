import LspEndpoint.Text.Quoted

/-!
A quoted text is one line: no control character stands in it as it is.
-/
namespace LspEndpoint

namespace CodePoint

theorem space_le_hexDigit (n : Nat) : 0x20 ≤ (hexDigit n).val := by
  have h : n % 16 < 16 := Nat.mod_lt _ (by decide)
  unfold hexDigit
  rw [val_ofNat (by split <;> omega)]
  split <;> omega

theorem space_le_of_isPrintable {c : CodePoint} (h : c.isPrintable) : 0x20 ≤ c.val := by
  by_cases hc : c.val < 0x7F
  · rw [isPrintable_of_ascii c hc] at h
    exact of_decide_eq_true h
  · omega

end CodePoint

namespace Text

theorem space_le_of_mem_ofHex {width n : Nat} {c : CodePoint} (h : c ∈ ofHex width n) : 0x20 ≤ c.val := by
  induction width generalizing n with
  | zero => exact absurd h List.not_mem_nil
  | succ width ih =>
    rw [ofHex, List.mem_append, List.mem_singleton] at h
    rcases h with h | rfl
    · exact ih h
    · exact CodePoint.space_le_hexDigit n

theorem space_le_of_mem_hexEscape {c d : CodePoint} (h : d ∈ c.hexEscape) : 0x20 ≤ d.val := by
  have hw : ∀ d ∈ ofString "\\x" ++ "\\u" ++ "\\U", 0x20 ≤ d.val := by decide
  simp only [List.mem_append] at hw
  unfold CodePoint.hexEscape at h
  split at h
  · exact (List.mem_append.1 h).elim (fun h => hw d (.inl (.inl h))) space_le_of_mem_ofHex
  · split at h
    · exact (List.mem_append.1 h).elim (fun h => hw d (.inl (.inr h))) space_le_of_mem_ofHex
    · exact (List.mem_append.1 h).elim (fun h => hw d (.inr h)) space_le_of_mem_ofHex

theorem space_le_of_mem_quotedBy {quote c d : CodePoint} (hq : 0x20 ≤ quote.val)
    (h : d ∈ CodePoint.quotedBy quote c) : 0x20 ≤ d.val := by
  have hw : ∀ d ∈ ofString "\\t" ++ "\\n" ++ "\\r", 0x20 ≤ d.val := by decide
  simp only [List.mem_append] at hw
  unfold CodePoint.quotedBy at h
  split at h
  · rename_i hc
    simp only [Bool.or_eq_true, decide_eq_true_eq] at hc
    have hback : 0x20 ≤ (CodePoint.ofChar '\\').val := by decide
    simp only [List.mem_cons, List.not_mem_nil, or_false] at h
    rcases h with rfl | rfl
    · exact hback
    · exact hc.elim (fun e => e ▸ hq) fun e => e ▸ hback
  · split at h
    · exact hw d (.inl (.inl h))
    · split at h
      · exact hw d (.inl (.inr h))
      · split at h
        · exact hw d (.inr h)
        · split at h
          · rename_i hp
            rw [List.mem_singleton.1 h]
            exact CodePoint.space_le_of_isPrintable hp
          · exact space_le_of_mem_hexEscape h

theorem space_le_of_mem_quoted {t : Text} {c : CodePoint} (h : c ∈ t.quoted) : 0x20 ≤ c.val := by
  have hq : 0x20 ≤ t.quoteMark.val := by
    unfold quoteMark
    split <;> decide
  simp only [quoted, List.mem_cons, List.mem_append, List.mem_flatMap, List.not_mem_nil, or_false] at h
  rcases h with rfl | ⟨d, _, h⟩ | rfl
  · exact hq
  · exact space_le_of_mem_quotedBy hq h
  · exact hq

theorem mem_joined {separator : Text} {ts : List Text} {c : CodePoint} (h : c ∈ joined separator ts) :
    c ∈ separator ∨ ∃ t ∈ ts, c ∈ t := by
  cases ts with
  | nil => exact absurd h List.not_mem_nil
  | cons t ts =>
    simp only [joined, List.mem_append, List.mem_flatMap] at h
    rcases h with h | ⟨u, hu, h | h⟩
    · exact .inr ⟨t, List.mem_cons_self .., h⟩
    · exact .inl h
    · exact .inr ⟨u, List.mem_cons_of_mem _ hu, h⟩

end Text

end LspEndpoint
