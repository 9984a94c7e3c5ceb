import LspEndpoint.Framing.Reader
import LspEndpoint.Framing.Writer

/-!
What header lines say. A line declares a length if what stands before its first colon is the name of that
header, in any letter case and with padding around; of several such lines in a block the last one counts.
-/
namespace LspEndpoint

namespace CodePoint

/-- A code point that lower case takes into the name of the length header is one of its letters. -/
theorem of_toAsciiLower {c : CodePoint} (h : c.toAsciiLower ∈ Text.ofString "content-length") :
    c.val = 0x2D ∨ 0x41 ≤ c.val ∧ c.val ≤ 0x5A ∨ 0x61 ≤ c.val ∧ c.val ≤ 0x7A := by
  have hd : ∀ d ∈ Text.ofString "content-length", d.val = 0x2D ∨ 0x61 ≤ d.val ∧ d.val ≤ 0x7A := by
    decide
  unfold toAsciiLower at h
  split at h
  · rename_i hc
    simp only [Bool.and_eq_true, decide_eq_true_eq] at hc
    exact .inr (.inl hc)
  · exact (hd c h).imp id .inr

end CodePoint

namespace Text

/-- Blanks around a text that has none of its own are trimmed away. -/
theorem trim_margins {left t right : Text} (hl : left.all CodePoint.isBlank)
    (hr : right.all CodePoint.isBlank) (hn : t ≠ []) (ht : ∀ c ∈ t, c.isBlank = false) :
    trim (left ++ t ++ right) = t := by
  obtain ⟨first, rest, hf⟩ := List.exists_cons_of_ne_nil hn
  obtain ⟨last, front, hb⟩ := List.exists_cons_of_ne_nil (mt List.reverse_eq_nil_iff.1 hn)
  have hfirst : first.isBlank = false := ht first (hf ▸ List.mem_cons_self ..)
  have hlast : last.isBlank = false :=
    ht last (List.mem_reverse.1 (hb ▸ List.mem_cons_self ..))
  have hleft : trimLeft (left ++ t ++ right) = t ++ right := by
    rw [trimLeft, List.append_assoc, List.dropWhile_append_of_pos (by simpa using hl), hf,
      List.cons_append, List.dropWhile_cons_of_neg (by simp [hfirst])]
  rw [trim, hleft, trimRight, List.reverse_append,
    List.dropWhile_append_of_pos (by simpa using hr), hb,
    List.dropWhile_cons_of_neg (by simp [hlast]), ← hb, List.reverse_reverse]

/-- What is trimmed away is blank. -/
theorem exists_margins (t : Text) :
    ∃ left right, t = left ++ trim t ++ right ∧ (∀ c ∈ left, c.isBlank) ∧ ∀ c ∈ right, c.isBlank := by
  refine ⟨t.takeWhile CodePoint.isBlank, (t.trimLeft.reverse.takeWhile CodePoint.isBlank).reverse, ?_,
    List.all_eq_true.1 List.all_takeWhile,
    fun c hc => List.all_eq_true.1 List.all_takeWhile c (List.mem_reverse.1 hc)⟩
  have hr : trim t ++ (t.trimLeft.reverse.takeWhile CodePoint.isBlank).reverse = t.trimLeft := by
    rw [trim, trimRight, ← List.reverse_append, List.takeWhile_append_dropWhile, List.reverse_reverse]
  rw [List.append_assoc, hr, trimLeft, List.takeWhile_append_dropWhile]

end Text

namespace Framing

theorem decodeAscii_asciiBytes {t : Text} (h : ∀ c ∈ t, c.val < 0x80) :
    Bytes.decodeAscii (asciiBytes t) = t := by
  induction t with
  | nil => rfl
  | cons c t ih =>
    have hc : c.val < 0x80 := h c (List.mem_cons_self ..)
    have hb : (UInt8.ofNat c.val).toNat = c.val :=
      UInt8.toNat_ofNat_of_lt' (Nat.lt_trans hc (by decide))
    have hlt : UInt8.ofNat c.val < 0x80 := UInt8.lt_iff_toNat_lt.2 (by rw [hb]; exact hc)
    have ht := ih fun d hd => h d (List.mem_cons_of_mem _ hd)
    simp only [asciiBytes, Bytes.decodeAscii, List.map_cons, if_pos hlt, hb, CodePoint.ofNat_val] at ht ⊢
    rw [ht]

theorem asciiBytes_append (s t : Text) : asciiBytes (s ++ t) = asciiBytes s ++ asciiBytes t :=
  List.map_append

/-- The code point that a byte of a header stands for. -/
def headerCodePoint (b : UInt8) : CodePoint :=
  if b < 0x80 then CodePoint.ofNat b.toNat else CodePoint.replacement

theorem decodeAscii_eq_map (bytes : Bytes) : bytes.decodeAscii = bytes.map headerCodePoint := rfl

/-- White space that may stand around the name and the value of a header. -/
def isPadding (b : UInt8) : Bool := (0x09 ≤ b && b ≤ 0x0D) || (0x1C ≤ b && b ≤ 0x20)

theorem forall_byte {P : UInt8 → Prop} (h : ∀ n < 256, P (UInt8.ofNat n)) (b : UInt8) : P b := by
  have hb := h b.toNat b.toNat_lt
  rwa [UInt8.ofNat_toNat] at hb

theorem isBlank_headerCodePoint (b : UInt8) : (headerCodePoint b).isBlank = isPadding b :=
  forall_byte (P := fun b => (headerCodePoint b).isBlank = isPadding b) (by decide +kernel) b

theorem val_headerCodePoint (b : UInt8) : (headerCodePoint b).val = 0x3A ↔ b = 0x3A :=
  forall_byte (P := fun b => (headerCodePoint b).val = 0x3A ↔ b = 0x3A) (by decide +kernel) b

theorem ofNat_headerCodePoint (b : UInt8) :
    (headerCodePoint b).val < 0x80 → UInt8.ofNat (headerCodePoint b).val = b :=
  forall_byte (P := fun b => (headerCodePoint b).val < 0x80 → UInt8.ofNat (headerCodePoint b).val = b)
    (by decide +kernel) b

/-- The key under which a length is declared. -/
def lengthKey : Text := "content-length"

/-- The line declares a length by this value. -/
def HasLength (line value : Bytes) : Prop :=
  ∃ (left right : Bytes) (name : Text), left.all isPadding ∧ right.all isPadding ∧
    name.toAsciiLower = lengthKey ∧ line = left ++ asciiBytes name ++ right ++ 0x3A :: value

theorem not_colon {name : Bytes} (h : 0x3A ∉ name) :
    ∀ c ∈ name.decodeAscii, (!(c.val == 0x3A)) = true := by
  intro c hc
  rw [decodeAscii_eq_map] at hc
  obtain ⟨b, hb, rfl⟩ := List.mem_map.1 hc
  have hne : (headerCodePoint b).val ≠ 0x3A := fun e => h ((val_headerCodePoint b).1 e ▸ hb)
  simpa using hne

/-- A line is split at its first colon. -/
theorem header?_append {name : Bytes} (hn : 0x3A ∉ name) (value : Bytes) :
    header? (name ++ 0x3A :: value) =
      some ((Text.trim name.decodeAscii).toAsciiLower, Text.trim value.decodeAscii) := by
  have hs : Bytes.decodeAscii (name ++ 0x3A :: value) =
      name.decodeAscii ++ CodePoint.ofChar ':' :: value.decodeAscii := by
    rw [decodeAscii_eq_map, List.map_append]
    rfl
  have hd : (name.decodeAscii ++ CodePoint.ofChar ':' :: value.decodeAscii).dropWhile
      (fun c => !(c.val == 0x3A)) = CodePoint.ofChar ':' :: value.decodeAscii := by
    rw [List.dropWhile_append_of_pos (not_colon hn)]
    rfl
  have ht : (name.decodeAscii ++ CodePoint.ofChar ':' :: value.decodeAscii).takeWhile
      (fun c => !(c.val == 0x3A)) = name.decodeAscii := by
    rw [List.takeWhile_append_of_pos (not_colon hn)]
    exact List.append_nil _
  simp only [header?, hs, hd, ht]

theorem header?_eq_none {line : Bytes} (h : 0x3A ∉ line) : header? line = none := by
  have hd : line.decodeAscii.dropWhile (fun c => !(c.val == 0x3A)) = [] := by
    rw [← List.append_nil line.decodeAscii, List.dropWhile_append_of_pos (not_colon h)]
    rfl
  simp only [header?, hd]

/-- Padding around a text that has none of its own is trimmed away. -/
theorem trim_decodeAscii {left right : Bytes} {t : Text} (hl : left.all isPadding) (hr : right.all isPadding)
    (hn : t ≠ []) (ht : ∀ c ∈ t, c.val < 0x80 ∧ c.isBlank = false) :
    Text.trim (Bytes.decodeAscii (left ++ asciiBytes t ++ right)) = t := by
  have hb (bytes : Bytes) (hp : bytes.all isPadding) :
      (bytes.map headerCodePoint).all CodePoint.isBlank := by
    simpa only [List.all_map, Function.comp_def, isBlank_headerCodePoint] using hp
  have hm : (asciiBytes t).map headerCodePoint = t := decodeAscii_asciiBytes fun c h => (ht c h).1
  rw [decodeAscii_eq_map, List.map_append, List.map_append, hm]
  exact Text.trim_margins (hb left hl) (hb right hr) hn fun c h => (ht c h).2

section Names

variable {name : Text} (h : name.toAsciiLower = lengthKey)

include h

/-- A name that lower case takes into the key of the length consists of letters and hyphens. -/
theorem val_of_mem_name {c : CodePoint} (hc : c ∈ name) :
    c.val = 0x2D ∨ 0x41 ≤ c.val ∧ c.val ≤ 0x5A ∨ 0x61 ≤ c.val ∧ c.val ≤ 0x7A :=
  CodePoint.of_toAsciiLower (h ▸ List.mem_map_of_mem hc : c.toAsciiLower ∈ lengthKey)

theorem val_lt_of_mem_name : ∀ c ∈ name, c.val < 0x80 := by
  intro c hc
  have := val_of_mem_name h hc
  omega

theorem isBlank_of_mem_name {c : CodePoint} (hc : c ∈ name) : c.isBlank = false := by
  have := val_of_mem_name h hc
  simp only [CodePoint.isBlank, Bool.or_eq_false_iff, Bool.and_eq_false_iff, decide_eq_false_iff_not,
    beq_eq_false_iff_ne]
  omega

theorem colon_not_mem_name : 0x3A ∉ asciiBytes name := by
  intro hm
  obtain ⟨c, hc, he⟩ := List.mem_map.1 hm
  have hlt := val_lt_of_mem_name h c hc
  have hv : c.val = 0x3A := by
    have hn := congrArg UInt8.toNat he
    rwa [UInt8.toNat_ofNat_of_lt' (Nat.lt_trans hlt (by decide))] at hn
  have := val_of_mem_name h hc
  omega

theorem ne_nil_of_name : name ≠ [] := by
  rintro rfl
  exact absurd h (by decide)

end Names

theorem header?_of_hasLength {line value : Bytes} (h : HasLength line value) :
    header? line = some (lengthKey, Text.trim value.decodeAscii) := by
  obtain ⟨left, right, name, hl, hr, hn, rfl⟩ := h
  have hcolon {padding : Bytes} (hp : padding.all isPadding) : 0x3A ∉ padding :=
    fun hm => absurd (List.all_eq_true.1 hp _ hm) (by decide)
  have hnone : 0x3A ∉ left ++ asciiBytes name ++ right := by
    simp only [List.mem_append, not_or]
    exact ⟨⟨hcolon hl, colon_not_mem_name hn⟩, hcolon hr⟩
  rw [header?_append hnone, trim_decodeAscii hl hr (ne_nil_of_name hn) fun c hc =>
    ⟨val_lt_of_mem_name hn c hc, isBlank_of_mem_name hn hc⟩, hn]

theorem all_isPadding {bytes : Bytes} (h : ∀ c ∈ bytes.map headerCodePoint, c.isBlank) :
    bytes.all isPadding := by
  rw [List.all_eq_true]
  intro b hb
  rw [← isBlank_headerCodePoint]
  exact h _ (List.mem_map_of_mem hb)

theorem asciiBytes_map {bytes : Bytes} (h : ∀ c ∈ bytes.map headerCodePoint, c.val < 0x80) :
    asciiBytes (bytes.map headerCodePoint) = bytes := by
  rw [asciiBytes, List.map_map]
  exact (List.map_congr_left fun b hb => ofNat_headerCodePoint b (h _ (List.mem_map_of_mem hb))).trans
    (List.map_id bytes)

/-- A header under the key of the length comes from a line that declares one. -/
theorem hasLength_of_header? {line : Bytes} {v : Text} (h : header? line = some (lengthKey, v)) :
    ∃ value, HasLength line value := by
  by_cases hm : 0x3A ∈ line
  · obtain ⟨name, value, rfl, hn⟩ := List.eq_append_cons_of_mem hm
    rw [header?_append hn] at h
    have hk : (Text.trim (Bytes.decodeAscii name)).toAsciiLower = lengthKey :=
      congrArg Prod.fst (Option.some.inj h)
    obtain ⟨l, r, hs, hl, hr⟩ := Text.exists_margins (Bytes.decodeAscii name)
    rw [decodeAscii_eq_map] at hs hk
    obtain ⟨front, right, rfl, hf, rfl⟩ := List.map_eq_append_iff.1 hs
    obtain ⟨left, mid, rfl, rfl, hmid⟩ := List.map_eq_append_iff.1 hf
    refine ⟨value, left, right, mid.map headerCodePoint, ?_, ?_, ?_, ?_⟩
    · exact all_isPadding hl
    · exact all_isPadding hr
    · rw [hmid]
      exact hk
    · rw [asciiBytes_map (hmid ▸ val_lt_of_mem_name hk)]
  · rw [header?_eq_none hm] at h
    cases h

end Framing

end LspEndpoint
