import LspEndpoint.Proofs.Json.Token

/-!
Doubles as they are written. Whatever its digits are, a finite double is written as a numeral with a fraction or an
exponent, which is therefore read as a double again.
-/
namespace LspEndpoint

namespace Text

theorem isDigit_of_mem_padded {width n : Nat} {c : CodePoint} (h : c ∈ padded width n) : c.isDigit := by
  rcases List.mem_append.1 h with h | h
  · rw [(List.mem_replicate.1 h).2]
    decide
  · exact isDigit_of_mem_ofNat h

theorem padded_ne_nil (width n : Nat) : padded width n ≠ [] :=
  List.append_ne_nil_of_right_ne_nil _ (ofNat_ne_nil n)

end Text

namespace Json

/-- A numeral that stands for no integer. -/
def Numeral.IsFractional (n : Numeral) : Prop := n.fraction ≠ [] ∨ n.exponent ≠ none

theorem Numeral.toJson_of_isFractional {n : Numeral} (h : n.IsFractional) : ∃ x, n.toJson = .ok (.float x) := by
  unfold toJson
  split
  · rename_i hf he
    exact absurd h fun h => h.elim (fun h => h hf) fun h => h he
  · exact ⟨_, rfl⟩

end Json

namespace Binary64

open Json

/-- A text that is written as a numeral and read as a double. -/
def IsDouble (t : Text) : Prop := ∃ n : Numeral, n.negative = false ∧ n.IsWritten ∧ n.IsFractional ∧ t = n.text

theorem isDigit_of_mem_zeros {k : Nat} {c : CodePoint} (h : c ∈ zeros k) : c.isDigit := by
  rw [(List.mem_replicate.1 h).2]
  decide

theorem withoutTrailingZeros_cons {c : CodePoint} (h : c ≠ CodePoint.ofChar '0') (t : Text) :
    ∃ u, withoutTrailingZeros (c :: t) = c :: u ∧ ∀ d ∈ u, d ∈ t := by
  have hc : (c.val == 0x30) = false := beq_eq_false_iff_ne.2 fun e => h (CodePoint.val_injective e)
  rw [withoutTrailingZeros, List.reverse_cons, List.dropWhile_append]
  split
  · refine ⟨[], ?_, fun _ hd => absurd hd List.not_mem_nil⟩
    rw [List.dropWhile_cons_of_neg (by simp [hc])]
    rfl
  · refine ⟨_, by rw [List.reverse_append]; rfl, fun d hd => ?_⟩
    exact List.mem_reverse.1 ((List.dropWhile_sublist _).mem (List.mem_reverse.1 hd))

section Layouts

variable {c : CodePoint} {t : Text} (hc : c ≠ CodePoint.ofChar '0') (hd : ∀ d ∈ c :: t, d.isDigit)

include hc hd

theorem isDouble_positional (point : Int) : IsDouble (positional (c :: t) point) := by
  have hzero : (CodePoint.ofChar '0').isDigit := by decide
  have hz : Text.ofString "0" ≠ [] := by decide
  unfold positional
  split
  · refine ⟨⟨false, "0", zeros (-point).toNat ++ c :: t, none⟩, rfl, ?_, .inl (by simp), ?_⟩
    · refine ⟨.inl rfl, fun d h => ?_, fun d h => ?_, fun _ h => by cases h⟩
      · rw [List.mem_singleton.1 h]
        exact hzero
      · exact (List.mem_append.1 h).elim isDigit_of_mem_zeros (hd d)
    · simp [Numeral.text, Numeral.fractionText, Numeral.exponentText]
      rfl
  split
  · refine ⟨⟨false, c :: t ++ zeros (point.toNat - (c :: t).length), "0", none⟩, rfl, ?_, .inl hz, ?_⟩
    · refine ⟨.inr ⟨c, _, rfl, hc⟩, fun d h => ?_, fun d h => ?_, fun _ h => by cases h⟩
      · exact (List.mem_append.1 h).elim (hd d) isDigit_of_mem_zeros
      · rw [List.mem_singleton.1 h]
        exact hzero
    · simp [Numeral.text, Numeral.fractionText, Numeral.exponentText]
      rfl
  · rename_i hpos hlen
    obtain ⟨k, hk⟩ : ∃ k, point.toNat = k + 1 := ⟨point.toNat - 1, by omega⟩
    have hne : t.drop k ≠ [] := by
      rw [hk, List.length_cons] at hlen
      exact fun h => by have := List.drop_eq_nil_iff.1 h; omega
    rw [hk, List.take_succ_cons, List.drop_succ_cons]
    refine ⟨⟨false, c :: t.take k, t.drop k, none⟩, rfl, ?_, .inl hne, ?_⟩
    · refine ⟨.inr ⟨c, _, rfl, hc⟩, fun d h => ?_, fun d h => ?_, fun _ h => by cases h⟩
      · rcases List.mem_cons.1 h with rfl | h
        · exact hd _ (List.mem_cons_self ..)
        · exact hd d (List.mem_cons_of_mem _ (List.mem_of_mem_take h))
      · exact hd d (List.mem_cons_of_mem _ (List.mem_of_mem_drop h))
    · simp [Numeral.text, Numeral.fractionText, Numeral.exponentText, hne]
      rfl

theorem isDouble_exponential (exponent : Int) : IsDouble (exponential (c :: t) exponent) := by
  refine ⟨⟨false, [c], t, some (exponent < 0, Text.padded 2 exponent.natAbs)⟩, rfl, ?_, .inr (by simp), ?_⟩
  · refine ⟨.inr ⟨c, [], rfl, hc⟩, fun d h => ?_, fun d h => hd d (List.mem_cons_of_mem _ h), fun e h => ?_⟩
    · exact hd d (List.mem_cons.2 (.inl (List.mem_singleton.1 h)))
    · obtain rfl := Option.some.inj h
      exact ⟨Text.padded_ne_nil _ _, fun _ => Text.isDigit_of_mem_padded⟩
  · have hlen : (c :: t).length ≤ 1 ↔ t = [] := by simp
    have hmark : (if exponent < 0 then Text.ofString "e-" else Text.ofString "e+") =
        [CodePoint.ofChar 'e', CodePoint.ofChar (if exponent < 0 then '-' else '+')] := by
      split <;> decide
    simp only [exponential, hlen, hmark, Numeral.text, Numeral.fractionText, Numeral.exponentText,
      decide_eq_true_eq, Bool.false_eq_true, if_false, List.nil_append]
    by_cases ht : t = []
    · simp [ht]
    · simp [ht]
      rfl

end Layouts

/-- Digits that are all zero read back as zero and as nothing else. -/
theorem digits_pos_of_readsBack {rank : Nat} (h : rank ≠ 0) (hr : rank < magnitudes) {d : Decimal}
    (hd : readsBack rank d) : 0 < d.digits := by
  refine Nat.pos_of_ne_zero fun hz => ?_
  have hm : 0 < magnitudes := by omega
  simp only [readsBack, ofDecimal, hz, if_true, ofRank, hm, hr, dif_pos, beq_iff_eq, finite.injEq, Fin.mk.injEq,
    true_and] at hd
  exact h hd.symm

theorem readsBack_of_onGrid? {rank num den : Nat} {p : Int} {d : Decimal} (h : onGrid? rank num den p = some d) :
    readsBack rank d := by
  simp only [onGrid?] at h
  split at h
  · rename_i hbelow habove
    cases h
    split
    · exact hbelow
    split
    · exact habove
    split
    · exact hbelow
    · exact habove
  · rename_i hbelow _
    cases h
    exact hbelow
  · rename_i habove
    cases h
    exact habove
  · cases h

/-- The shortest digits are not all zero, unless none were found at all. -/
theorem shortest_digits {rank : Nat} (h : rank ≠ 0) (hr : rank < magnitudes) :
    shortest rank = ⟨0, 0⟩ ∨ 0 < (shortest rank).digits := by
  unfold shortest
  dsimp only
  generalize hf : List.findSome? _ (List.range 17) = found
  cases found with
  | none => exact .inl rfl
  | some d =>
    obtain ⟨k, -, hk⟩ := List.exists_of_findSome?_eq_some hf
    exact .inr (digits_pos_of_readsBack h hr (readsBack_of_onGrid? hk))

theorem isDouble_zero : IsDouble "0.0" := by
  refine ⟨⟨false, "0", "0", none⟩, rfl, ⟨.inl rfl, ?_, ?_, fun _ h => by cases h⟩, .inl ?_, ?_⟩ <;> decide

theorem isDouble_magnitudeText {rank : Nat} (hr : rank < magnitudes) : IsDouble (magnitudeText rank) := by
  unfold magnitudeText
  split
  · exact isDouble_zero
  rename_i h
  rcases shortest_digits h hr with hs | hs
  · rw [hs]
    exact isDouble_zero
  · dsimp only
    obtain ⟨c, t, ht, hc⟩ := Text.head_ofNat hs
    obtain ⟨u, hu, hmem⟩ := withoutTrailingZeros_cons hc t
    have hd : ∀ d ∈ c :: u, d.isDigit := fun d hd => by
      refine Text.isDigit_of_mem_ofNat (n := (shortest rank).digits) ?_
      rw [ht]
      exact (List.mem_cons.1 hd).elim (fun e => e ▸ List.mem_cons_self ..) fun h => List.mem_cons_of_mem _ (hmem d h)
    rw [ht, hu]
    split
    · exact isDouble_positional hc hd _
    · exact isDouble_exponential hc hd _

/-- A finite double is written as a numeral that is no integer. -/
theorem text_finite (negative : Bool) (rank : Fin magnitudes) :
    ∃ n : Numeral, n.IsWritten ∧ n.IsFractional ∧ (finite negative rank).text floatWords = n.text := by
  obtain ⟨n, hn, hw, hf, ht⟩ := isDouble_magnitudeText rank.isLt
  refine ⟨{ n with negative }, ⟨hw.whole, hw.digits, hw.fraction, hw.exponent⟩, hf, ?_⟩
  rw [text, ht, Numeral.text, Numeral.text, hn]
  cases negative <;> rfl

/-- A double is written as one of the words for what is no number, or as a numeral that is no integer. -/
theorem text_cases (x : Binary64) :
    (x.text floatWords = "NaN" ∨ x.text floatWords = "Infinity" ∨ x.text floatWords = "-Infinity") ∨
      ∃ n : Numeral, n.IsWritten ∧ n.IsFractional ∧ x.text floatWords = n.text := by
  cases x with
  | nan => exact .inl (.inl rfl)
  | infinite negative =>
    cases negative with
    | false => exact .inl (.inr (.inl rfl))
    | true => exact .inl (.inr (.inr (by decide)))
  | finite negative rank => exact .inr (text_finite negative rank)

end Binary64

end LspEndpoint
