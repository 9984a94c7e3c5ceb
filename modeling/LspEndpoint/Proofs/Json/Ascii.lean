import LspEndpoint.Proofs.Json.Survival
import LspEndpoint.Text.Native

/-!
Values written in ASCII. All characters of the written form are printable, so it has no line break, whatever stands in
the value.
-/
namespace LspEndpoint

/-- A printable character of ASCII. -/
def CodePoint.isPrintableAscii (c : CodePoint) : Bool := 0x20 ≤ c.val && c.val < 0x7F

theorem CodePoint.isPrintableAscii_of_isDigit {c : CodePoint} (h : c.isDigit) : c.isPrintableAscii := by
  simp only [isDigit, isPrintableAscii, Bool.and_eq_true, decide_eq_true_eq] at h ⊢
  omega

namespace Text

def isPrintableAscii (t : Text) : Bool := t.all CodePoint.isPrintableAscii

@[simp] theorem isPrintableAscii_append (s t : Text) :
    isPrintableAscii (s ++ t) = (isPrintableAscii s && isPrintableAscii t) :=
  List.all_append

@[simp] theorem isPrintableAscii_cons (c : CodePoint) (t : Text) :
    isPrintableAscii (c :: t) = (c.isPrintableAscii && isPrintableAscii t) :=
  List.all_cons

@[simp] theorem isPrintableAscii_nil : isPrintableAscii [] = true := rfl

theorem isPrintableAscii_of_isDigit {t : Text} (h : ∀ c ∈ t, c.isDigit) : t.isPrintableAscii :=
  List.all_eq_true.2 fun c hc => CodePoint.isPrintableAscii_of_isDigit (h c hc)

theorem isPrintableAscii_ofHex (width n : Nat) : (ofHex width n).isPrintableAscii := by
  have hd (n : Nat) : (CodePoint.hexDigit n).isPrintableAscii := by
    unfold CodePoint.hexDigit
    simp only [CodePoint.isPrintableAscii, Bool.and_eq_true, decide_eq_true_eq]
    split <;> rw [CodePoint.val_ofNat (by omega)] <;> omega
  induction width generalizing n with
  | zero => rfl
  | succ width ih => simp [ofHex, ih, hd]

theorem octets_of_ascii {t : Text} (h : ∀ c ∈ t, c.val < 0x80) : octets t = t := by
  induction t with
  | nil => rfl
  | cons c t ih =>
    have hc := h c (List.mem_cons_self ..)
    have he : c.isEscapedByte = false := by
      simp only [CodePoint.isEscapedByte, Bool.and_eq_false_iff, decide_eq_false_iff_not]
      omega
    have hn : (UInt8.ofNat c.val).toNat = c.val := UInt8.toNat_ofNat_of_lt' (Nat.lt_trans hc (by decide))
    have hcons : octets (c :: t) = c :: octets t := by
      simp [octets, native, CodePoint.native, he, CodePoint.utf8, hc, hn]
    rw [hcons, ih fun d hd => h d (List.mem_cons_of_mem _ hd)]

/-- A line of ASCII is its own native form. -/
theorem octets_line {t : Text} (h : t.isPrintableAscii) : octets (t ++ ofString "\n") = t ++ ofString "\n" := by
  refine octets_of_ascii fun c hc => ?_
  rcases List.mem_append.1 hc with hc | hc
  · have hp := List.all_eq_true.1 h c hc
    simp only [CodePoint.isPrintableAscii, Bool.and_eq_true, decide_eq_true_eq] at hp
    omega
  · have hn : ∀ c ∈ ofString "\n", c.val < 0x80 := by decide
    exact hn c hc

/-- Printable text of ASCII holds no surrogates. -/
theorem isUnsplit_of_isPrintableAscii {t : Text} (h : t.isPrintableAscii) : t.isUnsplit := by
  induction t with
  | nil => rfl
  | cons c t ih =>
    rw [isPrintableAscii_cons, Bool.and_eq_true] at h
    cases t with
    | nil => rfl
    | cons d t =>
      have hc : c.isLeading = false := by
        simp only [CodePoint.isPrintableAscii, CodePoint.isLeading, Bool.and_eq_true, Bool.and_eq_false_iff,
          decide_eq_true_eq, decide_eq_false_iff_not] at h ⊢
        omega
      rw [isUnsplit, hc, ih h.2]
      rfl

end Text

namespace Json

section Characters

theorem isPrintableAscii_escaped (c : CodePoint) : (escaped true c).isPrintableAscii := by
  have hw (d : CodePoint) : (unicodeEscape d).isPrintableAscii := by
    have hu : Text.isPrintableAscii "\\u" := by decide
    rw [unicodeEscape, Text.isPrintableAscii_append, hu, Text.isPrintableAscii_ofHex]
    rfl
  cases hs : shortEscape c with
  | some t =>
    simp only [escaped, hs]
    unfold shortEscape at hs
    repeat' split at hs
    all_goals cases hs
    all_goals decide
  | none =>
    simp only [escaped, hs, Bool.not_true, Bool.false_or, decide_eq_true_eq]
    split
    · exact hw c
    split
    · simp only [Text.isPrintableAscii_cons, CodePoint.isPrintableAscii, Text.isPrintableAscii_nil, Bool.and_true,
        Bool.and_eq_true, decide_eq_true_eq]
      omega
    split
    · exact hw c
    · rw [Text.isPrintableAscii_append, hw, hw]
      rfl

theorem isPrintableAscii_renderText (t : Text) : (renderText true t).isPrintableAscii := by
  have hq : (CodePoint.ofChar '"').isPrintableAscii := by decide
  have ht : Text.isPrintableAscii (t.flatMap (escaped true)) := by
    rw [Text.isPrintableAscii, List.all_flatMap, List.all_eq_true]
    exact fun c _ => isPrintableAscii_escaped c
  simp [renderText, hq, ht]

theorem Numeral.isPrintableAscii_text {n : Numeral} (h : n.IsWritten) : n.text.isPrintableAscii := by
  have hwhole := Text.isPrintableAscii_of_isDigit h.digits
  have hfraction : (fractionText n.fraction).isPrintableAscii := by
    unfold fractionText
    split
    · rfl
    · have hp : (CodePoint.ofChar '.').isPrintableAscii := by decide
      rw [Text.isPrintableAscii_cons, hp, Text.isPrintableAscii_of_isDigit h.fraction]
      rfl
  have hexponent : (exponentText n.exponent).isPrintableAscii := by
    cases he : n.exponent with
    | none => rfl
    | some e =>
      obtain ⟨negative, digits⟩ := e
      have hm : (CodePoint.ofChar 'e').isPrintableAscii ∧
          (CodePoint.ofChar (if negative then '-' else '+')).isPrintableAscii := by
        cases negative <;> decide
      rw [exponentText, Text.isPrintableAscii_cons, Text.isPrintableAscii_cons, hm.1, hm.2,
        Text.isPrintableAscii_of_isDigit (h.exponent _ he).2]
      rfl
  rw [text, Text.isPrintableAscii_append, Text.isPrintableAscii_append, Text.isPrintableAscii_append, hwhole,
    hfraction, hexponent]
  split <;> decide

theorem isPrintableAscii_float (x : Binary64) : (x.text floatWords).isPrintableAscii := by
  rcases x.text_cases with (h | h | h) | ⟨n, hn, -, h⟩
  · rw [h]; decide
  · rw [h]; decide
  · rw [h]; decide
  · rw [h]
    exact n.isPrintableAscii_text hn

theorem isPrintableAscii_ofInt (n : Int) : (Text.ofInt n).isPrintableAscii := by
  rw [← Numeral.text_ofInt]
  exact (Numeral.ofInt n).isPrintableAscii_text (Numeral.isWritten_ofInt n)

mutual

/-- Whatever a value holds, its written form in ASCII is one line. -/
theorem isPrintableAscii_render : ∀ v, (render true v).isPrintableAscii
  | .null => by decide
  | .bool true => by decide
  | .bool false => by decide
  | .int n => isPrintableAscii_ofInt n
  | .float x => isPrintableAscii_float x
  | .text t => isPrintableAscii_renderText t
  | .array items => by
    have hb : Text.isPrintableAscii "[" ∧ Text.isPrintableAscii "]" := by decide
    rw [render, Text.isPrintableAscii_append, Text.isPrintableAscii_append, hb.1, hb.2,
      isPrintableAscii_renderItems items]
    rfl
  | .object members => by
    have hb : Text.isPrintableAscii "\x7b" ∧ Text.isPrintableAscii "\x7d" := by decide
    rw [render, Text.isPrintableAscii_append, Text.isPrintableAscii_append, hb.1, hb.2,
      isPrintableAscii_renderMembers members]
    rfl

theorem isPrintableAscii_renderItems : ∀ items, (renderItems true items).isPrintableAscii
  | [] => rfl
  | [v] => isPrintableAscii_render v
  | v :: w :: rest => by
    have hc : Text.isPrintableAscii ", " := by decide
    rw [renderItems, Text.isPrintableAscii_append, Text.isPrintableAscii_append, isPrintableAscii_render v, hc,
      isPrintableAscii_renderItems (w :: rest)]
    rfl

theorem isPrintableAscii_renderMembers : ∀ members, (renderMembers true members).isPrintableAscii
  | [] => rfl
  | [(k, v)] => by
    have hc : Text.isPrintableAscii ": " := by decide
    rw [renderMembers, Text.isPrintableAscii_append, Text.isPrintableAscii_append, isPrintableAscii_renderText k, hc,
      isPrintableAscii_render v]
    rfl
  | (k, v) :: m :: rest => by
    have hc : Text.isPrintableAscii ": " ∧ Text.isPrintableAscii ", " := by decide
    rw [renderMembers, Text.isPrintableAscii_append, Text.isPrintableAscii_append, Text.isPrintableAscii_append,
      Text.isPrintableAscii_append, isPrintableAscii_renderText k, hc.1, hc.2, isPrintableAscii_render v,
      isPrintableAscii_renderMembers (m :: rest)]
    rfl

end

end Characters

end Json

end LspEndpoint
