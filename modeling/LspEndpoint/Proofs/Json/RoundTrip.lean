import LspEndpoint.Proofs.Json.Survival

/-!
Documents survive being written out. A plain document, written in the form that keeps characters as they
are, has a UTF-8 form and is read back as it was, with the members of its objects in their order.
-/
namespace LspEndpoint

namespace Text

theorem isScalar_append (s t : Text) : isScalar (s ++ t) = (isScalar s && isScalar t) :=
  List.all_append

theorem isScalar_flatMap {f : CodePoint → Text} {t : Text} (h : ∀ c ∈ t, isScalar (f c)) :
    isScalar (t.flatMap f) := by
  simpa only [isScalar, List.all_flatMap, List.all_eq_true] using h

end Text

theorem CodePoint.isScalar_of_lt {c : CodePoint} (h : c.val < 0xD800) : c.isScalar := by
  simp only [isScalar, isSurrogate, Bool.not_eq_true', Bool.and_eq_false_iff, decide_eq_false_iff_not]
  omega

namespace Json

/-- A document without doubles and lone surrogates, with integers short enough to be shown and no key twice
in an object. -/
inductive IsPlain : Json → Prop
  | null : IsPlain .null
  | bool (b : Bool) : IsPlain (.bool b)
  | int {n : Int} (shown : Integer.isShown n) : IsPlain (.int n)
  | text {t : Text} (scalar : t.isScalar) : IsPlain (.text t)
  | array {items : List Json} (plain : ∀ v ∈ items, IsPlain v) : IsPlain (.array items)
  | object {members : Members} (distinct : (members.map Prod.fst).Nodup)
      (scalar : ∀ m ∈ members, m.1.isScalar) (plain : ∀ m ∈ members, IsPlain m.2) :
      IsPlain (.object members)

section Scalars

theorem isScalar_escaped {c : CodePoint} (h : c.isScalar) : Text.isScalar (escaped false c) := by
  cases hs : shortEscape c with
  | some t =>
    simp only [escaped, hs]
    unfold shortEscape at hs
    repeat' split at hs
    all_goals cases hs
    all_goals decide
  | none =>
    simp only [escaped, hs, Bool.not_false, Bool.true_or, if_true]
    split
    · have hd (n : Nat) : (CodePoint.hexDigit n).isScalar := by
        refine CodePoint.isScalar_of_lt ?_
        unfold CodePoint.hexDigit
        split <;> rw [CodePoint.val_ofNat (by omega)] <;> omega
      have hw : Text.isScalar "\\u" := by decide
      rw [unicodeEscape, Text.isScalar_append, hw, Text.ofHex_four]
      simp [Text.isScalar, hd]
    · simpa [Text.isScalar] using h

theorem isScalar_renderText {t : Text} (h : t.isScalar) : (renderText false t).isScalar := by
  have hq : (CodePoint.ofChar '"').isScalar := by decide
  have ht := Text.isScalar_flatMap fun c hc => isScalar_escaped (List.all_eq_true.1 h c hc)
  simp only [Text.isScalar] at ht
  simp [renderText, Text.isScalar, hq, ht]

theorem isScalar_ofInt (n : Int) : (Text.ofInt n).isScalar := by
  have hn : (Text.ofNat n.natAbs).isScalar := List.all_eq_true.2 fun c hc => by
    have hd := Text.isDigit_of_mem_ofNat hc
    simp only [CodePoint.isDigit, Bool.and_eq_true, decide_eq_true_eq] at hd
    exact CodePoint.isScalar_of_lt (by omega)
  have hm : (CodePoint.ofChar '-').isScalar := by decide
  unfold Text.ofInt
  split
  · simpa [Text.isScalar, hm] using hn
  · exact hn

theorem isScalar_renderItems {items : List Json} (h : ∀ v ∈ items, (render false v).isScalar) :
    (renderItems false items).isScalar := by
  have hs : Text.isScalar ", " := by decide
  induction items with
  | nil => rfl
  | cons v rest ih =>
    have hv := h v (List.mem_cons_self ..)
    have hr := ih fun w hw => h w (List.mem_cons_of_mem _ hw)
    cases rest with
    | nil => exact hv
    | cons w rest => rw [renderItems, Text.isScalar_append, Text.isScalar_append, hv, hs, hr]; rfl

theorem isScalar_renderMembers {members : Members} (hk : ∀ m ∈ members, m.1.isScalar)
    (h : ∀ m ∈ members, (render false m.2).isScalar) : (renderMembers false members).isScalar := by
  have hs : Text.isScalar ", " := by decide
  have hc : Text.isScalar ": " := by decide
  induction members with
  | nil => rfl
  | cons m rest ih =>
    obtain ⟨k, v⟩ := m
    have hkey := isScalar_renderText (hk (k, v) (List.mem_cons_self ..))
    have hv : (render false v).isScalar := h (k, v) (List.mem_cons_self ..)
    have hr := ih (fun w hw => hk w (List.mem_cons_of_mem _ hw)) fun w hw =>
      h w (List.mem_cons_of_mem _ hw)
    cases rest with
    | nil => rw [renderMembers, Text.isScalar_append, Text.isScalar_append, hkey, hc, hv]; rfl
    | cons w rest =>
      simp only [renderMembers, Text.isScalar_append, hkey, hc, hv, hs, hr, Bool.and_true]

/-- What is written for a plain document has a UTF-8 form. -/
theorem isScalar_render {v : Json} (h : IsPlain v) : (render false v).isScalar := by
  induction h with
  | null => decide
  | bool b => cases b <;> decide
  | int shown => exact isScalar_ofInt _
  | text scalar => exact isScalar_renderText scalar
  | array _ ih =>
    have hb : Text.isScalar "[" ∧ Text.isScalar "]" := by decide
    rw [render, Text.isScalar_append, Text.isScalar_append, hb.1, hb.2, isScalar_renderItems ih]
    rfl
  | object _ scalar _ ih =>
    have hb : Text.isScalar "\x7b" ∧ Text.isScalar "\x7d" := by decide
    rw [render, Text.isScalar_append, Text.isScalar_append, hb.1, hb.2,
      isScalar_renderMembers scalar ih]
    rfl

end Scalars

/-- Every plain document is read back from where it stands. -/
theorem IsPlain.survives {v : Json} (h : IsPlain v) : Survives false v v := by
  induction h with
  | null => exact survives_null
  | bool b => exact survives_bool b
  | int shown => exact survives_int shown
  | text _ => exact survives_text fun h => by cases h
  | array _ ih => simpa only [List.map_id'] using survives_array (f := fun v => v) ih
  | object distinct _ _ ih =>
    simpa only [List.map_id'] using survives_object (f := fun v => v) ih (fun _ _ h => by cases h) distinct

/-- A plain document is what its written form is read as. -/
theorem read_render {v : Json} (h : IsPlain v) : read (render false v) = .ok v := h.survives.read

end Json

end LspEndpoint
