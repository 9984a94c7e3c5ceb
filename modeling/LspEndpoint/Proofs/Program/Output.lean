import LspEndpoint.Program.Launch
import LspEndpoint.Proofs.Json.RoundTrip
import LspEndpoint.Proofs.Server.Reply

/-!
What programs print. Bytes are read as a text without surrogates, whatever they are, for no sequence that is begun can
come to one; so the output of a program can be sent on.
-/
namespace LspEndpoint

theorem CodePoint.isScalar_ofNat {n : Nat} (h : n < 0xD800 ∨ 0xE000 ≤ n) : (ofNat n).isScalar := by
  unfold ofNat
  split
  · simp only [isScalar, isSurrogate, Bool.not_eq_true', Bool.and_eq_false_iff, decide_eq_false_iff_not]
    omega
  · decide

namespace Bytes

/-- How many code points a sequence can still come to when that many bytes are owed and the next one is known. -/
def choices : Nat → Nat
  | 3 => 0x1000
  | 2 => 0x40
  | _ => 1

/-- All that the sequence can still come to lies below the surrogates, or all of it above. -/
structure Pending.IsSound (p : Pending) : Prop where
  owed : p.owed = 1 ∨ p.owed = 2 ∨ p.owed = 3
  low : 0x80 ≤ p.low.toNat
  apart : (p.bits * 0x40 + (p.high.toNat - 0x80) + 1) * choices p.owed ≤ 0xD800 ∨
    0xE000 ≤ (p.bits * 0x40 + (p.low.toNat - 0x80)) * choices p.owed

structure Decoding.IsSound (d : Decoding) : Prop where
  read : d.read.isScalar
  pending : ∀ p ∈ d.pending, p.IsSound

theorem isScalar_cons {c : CodePoint} (hc : c.isScalar) {t : Text} (ht : t.isScalar) : Text.isScalar (c :: t) :=
  Bool.and_eq_true_iff.2 ⟨hc, ht⟩

theorem isSound_none {read : Text} (h : read.isScalar) : Decoding.IsSound ⟨read, none⟩ := ⟨h, fun _ h => by cases h⟩

theorem isSound_some {read : Text} (h : read.isScalar) {p : Pending} (hp : p.IsSound) :
    Decoding.IsSound ⟨read, some p⟩ :=
  ⟨h, fun _ hq => by cases hq; exact hp⟩

theorem isSound_begin {read : Text} (h : read.isScalar) (b : UInt8) : (Bytes.begin read b).IsSound := by
  have hreplaced := isSound_none (isScalar_cons (c := CodePoint.replacement) (by decide) h)
  have hlow : 0x80 ≤ (0x80 : UInt8).toNat := by decide
  simp only [Bytes.begin, UInt8.lt_iff_toNat_lt, ← UInt8.toNat_inj, UInt8.reduceToNat]
  split
  · exact isSound_none (isScalar_cons (CodePoint.isScalar_ofNat (.inl (by omega))) h)
  split
  · exact hreplaced
  split
  · refine isSound_some h ⟨.inl rfl, hlow, .inl ?_⟩
    simp only [UInt8.reduceToNat, choices]
    omega
  split
  · exact isSound_some h ⟨.inr (.inl rfl), by decide, .inl (by decide)⟩
  split
  · exact isSound_some h ⟨.inr (.inl rfl), by decide, .inl (by decide)⟩
  split
  · refine isSound_some h ⟨.inr (.inl rfl), hlow, ?_⟩
    simp only [UInt8.reduceToNat, choices]
    omega
  split
  · exact isSound_some h ⟨.inr (.inr rfl), by decide, .inr (by decide)⟩
  split
  · refine isSound_some h ⟨.inr (.inr rfl), hlow, .inr ?_⟩
    simp only [UInt8.reduceToNat, choices]
    omega
  split
  · exact isSound_some h ⟨.inr (.inr rfl), by decide, .inr (by decide)⟩
  · exact hreplaced

/-- One byte more leaves fewer code points to come to. -/
theorem apart_next {bits first added last owed : Nat} (hfrom : first ≤ added) (hto : added ≤ last)
    (howed : owed = 1 ∨ owed = 2)
    (h : (bits * 0x40 + last + 1) * choices (owed + 1) ≤ 0xD800 ∨
      0xE000 ≤ (bits * 0x40 + first) * choices (owed + 1)) :
    ((bits * 0x40 + added) * 0x40 + 0x3F + 1) * choices owed ≤ 0xD800 ∨
      0xE000 ≤ ((bits * 0x40 + added) * 0x40 + 0) * choices owed := by
  have hchoices : choices (owed + 1) = 0x40 * choices owed := by rcases howed with rfl | rfl <;> rfl
  rw [hchoices, ← Nat.mul_assoc, ← Nat.mul_assoc] at h
  refine h.imp (fun hbelow => ?_) fun habove => ?_
  · exact Nat.le_trans (Nat.mul_le_mul_right _ (by omega)) hbelow
  · exact Nat.le_trans habove (Nat.mul_le_mul_right _ (by omega))

theorem Pending.IsSound.next {p : Pending} (h : p.IsSound) {b : UInt8} (hl : p.low.toNat ≤ b.toNat)
    (hh : b.toNat ≤ p.high.toNat) (howed : ¬ p.owed ≤ 1) :
    (⟨p.bits * 0x40 + (b.toNat - 0x80), p.owed - 1, 0x80, 0xBF⟩ : Pending).IsSound := by
  have hcases := h.owed
  have hsucc : p.owed = p.owed - 1 + 1 := by omega
  have hapart := h.apart
  rw [hsucc] at hapart
  have hnext := apart_next (Nat.sub_le_sub_right hl _) (Nat.sub_le_sub_right hh _) (by omega) hapart
  have hlast : (0xBF : UInt8).toNat - 0x80 = 0x3F := by decide
  have hfirst : (0x80 : UInt8).toNat - 0x80 = 0 := by decide
  refine ⟨by dsimp only; omega, (by decide : 0x80 ≤ (0x80 : UInt8).toNat), ?_⟩
  dsimp only
  rw [hlast, hfirst]
  exact hnext

theorem Decoding.IsSound.step {d : Decoding} (h : d.IsSound) (b : UInt8) : (d.step b).IsSound := by
  unfold Decoding.step
  split
  · exact isSound_begin h.read b
  · rename_i p hp
    have hsound := h.pending p hp
    split
    · rename_i hb
      rw [UInt8.le_iff_toNat_le, UInt8.le_iff_toNat_le] at hb
      dsimp only
      split
      · rename_i howed
        obtain ⟨hcases, hlow, hapart⟩ := hsound
        obtain h1 : p.owed = 1 := by omega
        rw [h1] at hapart
        simp only [choices] at hapart
        exact isSound_none (isScalar_cons (CodePoint.isScalar_ofNat (by omega)) h.read)
      · exact isSound_some h.read (hsound.next hb.1 hb.2 ‹_›)
    · exact isSound_begin (isScalar_cons (by decide) h.read) b

theorem isSound_foldl (bytes : Bytes) {d : Decoding} (h : d.IsSound) : (bytes.foldl Decoding.step d).IsSound := by
  induction bytes generalizing d with
  | nil => exact h
  | cons b rest ih => exact ih (h.step b)

/-- Whatever the bytes are, no surrogate is read from them. -/
theorem isScalar_decode (bytes : Bytes) : bytes.decode.isScalar := by
  have hempty : Text.isScalar [] := rfl
  have hs := isSound_foldl bytes (isSound_none hempty)
  have hreverse {t : Text} (h : t.isScalar) : Text.isScalar t.reverse := by
    rw [Text.isScalar, List.all_reverse]
    exact h
  unfold decode Decoding.finish
  split
  · exact hreverse hs.read
  · exact hreverse (isScalar_cons (by decide) hs.read)

end Bytes

theorem Text.mem_unifyLines {t : Text} {c : CodePoint} (h : c ∈ t.unifyLines) :
    c ∈ t ∨ c = CodePoint.ofChar '\n' := by
  induction t using Text.unifyLines.induct with
  | case1 => cases h
  | case2 d hd => exact .inr (by simpa [unifyLines, hd] using h)
  | case3 d hd => exact .inl (by simpa [unifyLines, hd] using h)
  | case4 d e t hd he ih =>
    rw [unifyLines, if_pos hd, if_pos he] at h
    exact (ih h).imp (List.mem_cons_of_mem _) id
  | case5 d e t hd he ih =>
    rw [unifyLines, if_pos hd, if_neg he] at h
    rcases List.mem_cons.1 h with hc | hc
    · exact .inr hc
    · exact (ih hc).imp (List.mem_cons_of_mem _) id
  | case6 d e t hd ih =>
    rw [unifyLines, if_neg hd] at h
    rcases List.mem_cons.1 h with hc | hc
    · exact .inl (hc ▸ List.mem_cons_self ..)
    · exact (ih hc).imp (List.mem_cons_of_mem _) id

theorem Text.isScalar_unifyLines {t : Text} (h : t.isScalar) : t.unifyLines.isScalar := by
  refine List.all_eq_true.2 fun c hc => ?_
  rcases Text.mem_unifyLines hc with hm | rfl
  · exact List.all_eq_true.1 h c hm
  · decide

/-- Programs that are really run print such texts. -/
theorem Program.prints_launch (e : Environment) (limit : Option Binary64) :
    Server.Prints fun files argv => (launch e limit files argv).map Answer.ofPrinted id := by
  intro files argv
  refine ⟨(launch e limit files argv).1, rfl, fun t ht => ?_⟩
  unfold launch at ht
  repeat' split at ht
  all_goals first
    | cases ht
      exact Text.isScalar_unifyLines (Bytes.isScalar_decode _)
    | cases ht

end LspEndpoint
