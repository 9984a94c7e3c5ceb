import LspEndpoint.Json.Printer
import LspEndpoint.Json.Reader
import LspEndpoint.Proofs.Number.Integer

/-!
Written strings and numerals are read back. A string ends at its closing quote, whatever follows; a
numeral ends where what follows cannot be part of a number. A string that is written in ASCII is read back
unless two of its surrogates would be read as one code point.
-/
namespace LspEndpoint

namespace CodePoint

theorem isDigit_eq_false {c : CodePoint} (h : c.val < 0x30 ∨ 0x39 < c.val) : c.isDigit = false := by
  simp only [isDigit, Bool.and_eq_false_iff, decide_eq_false_iff_not]
  omega

theorem ne_of_isDigit {c : CodePoint} (h : c.isDigit) {d : CodePoint}
    (hd : d.val < 0x30 ∨ 0x39 < d.val) : c ≠ d := by
  rintro rfl
  rw [isDigit_eq_false hd] at h
  cases h

end CodePoint

namespace Text

/-- No leading surrogate stands right before a trailing one, with which it would be one code point. -/
def isUnsplit : Text → Bool
  | c :: d :: t => !(c.isLeading && d.isTrailing) && isUnsplit (d :: t)
  | _ => true

/-- Four hexadecimal digits keep sixteen bits. -/
theorem ofHex_four (n : Nat) :
    ofHex 4 n = [CodePoint.hexDigit (n / 16 / 16 / 16), CodePoint.hexDigit (n / 16 / 16),
      CodePoint.hexDigit (n / 16), CodePoint.hexDigit n] := rfl

/-- Only zero is written with a zero in front. -/
theorem head_ofNat {n : Nat} (h : 0 < n) :
    ∃ c t, ofNat n = c :: t ∧ c ≠ CodePoint.ofChar '0' := by
  induction n using Nat.strongRecOn with
  | ind n ih =>
    rw [ofNat, Nat.toDigits_eq_if (by decide)]
    split
    · rename_i hn
      have hd : ∀ m < 10, 0 < m → CodePoint.ofChar m.digitChar ≠ CodePoint.ofChar '0' := by decide
      exact ⟨CodePoint.ofChar n.digitChar, [], rfl, hd n hn h⟩
    · obtain ⟨c, t, ht, hc⟩ := ih (n / 10) (by omega) (by omega)
      rw [ofNat] at ht
      exact ⟨c, t ++ [CodePoint.ofChar (n % 10).digitChar], by rw [List.map_append, ht]; rfl, hc⟩

end Text

namespace Json

section Strings

variable (start read : Text)

/-- A short escape names its character. -/
theorem shortEscape?_of_shortEscape {c : CodePoint} {t : Text} (h : shortEscape c = some t) :
    ∃ e, t = [CodePoint.ofChar '\\', e] ∧ e ≠ CodePoint.ofChar 'u' ∧ shortEscape? e = some c := by
  unfold shortEscape at h
  split at h
  · rename_i hc
    cases h
    exact ⟨CodePoint.ofChar '"', by decide, by decide, by rw [hc]; decide⟩
  split at h
  · rename_i hc
    cases h
    exact ⟨CodePoint.ofChar '\\', by decide, by decide, by rw [hc]; decide⟩
  split at h
  · rename_i hc
    cases h
    exact ⟨CodePoint.ofChar 'n', by decide, by decide, by rw [hc]; decide⟩
  split at h
  · rename_i hc
    cases h
    exact ⟨CodePoint.ofChar 'r', by decide, by decide, by rw [hc]; decide⟩
  split at h
  · rename_i hc
    cases h
    exact ⟨CodePoint.ofChar 't', by decide, by decide, by rw [hc]; decide⟩
  split at h
  · rename_i hc
    cases h
    have hc : c = CodePoint.ofChar '\x0c' := CodePoint.val_injective hc
    exact ⟨CodePoint.ofChar 'f', by decide, by decide, by rw [hc]; decide⟩
  split at h
  · rename_i hc
    cases h
    have hc : c = CodePoint.ofChar '\x08' := CodePoint.val_injective hc
    exact ⟨CodePoint.ofChar 'b', by decide, by decide, by rw [hc]; decide⟩
  · cases h

theorem readChars_quote (t : Text) :
    readChars start read 0 (CodePoint.ofChar '"' :: t) = .ok (read.reverse, t) := by
  cases t <;> rw [readChars, if_pos rfl]

/-- Characters that an escape has taken are passed over. -/
theorem readChars_skip (taken t : Text) :
    readChars start read taken.length (taken ++ t) = readChars start read 0 t := by
  induction taken with
  | nil => rfl
  | cons c taken ih => rw [List.length_cons, List.cons_append, readChars, ih]

theorem readChars_shortEscape {c e : CodePoint} (hu : e ≠ CodePoint.ofChar 'u')
    (h : shortEscape? e = some c) (t : Text) :
    readChars start read 0 (CodePoint.ofChar '\\' :: e :: t) = readChars start (c :: read) 0 t := by
  have hq : CodePoint.ofChar '\\' ≠ CodePoint.ofChar '"' := by decide
  rw [readChars, if_neg hq, if_pos rfl]
  simp only [if_neg hu, h]
  rw [readChars]

/-- Four hexadecimal digits are read as the number they were written for. -/
theorem hexCode?_ofHex {n : Nat} (h : n < 0x10000) (d : CodePoint) (t : Text) :
    hexCode? (Text.ofHex 4 n ++ d :: t) = some (.ofNat n) := by
  rw [Text.ofHex_four]
  simp only [List.cons_append, List.nil_append, hexCode?, CodePoint.hexValue?_hexDigit]
  congr 2
  omega

theorem unicodeEscape_eq (c : CodePoint) :
    unicodeEscape c = CodePoint.ofChar '\\' :: CodePoint.ofChar 'u' :: Text.ofHex 4 c.val := by
  have hw : Text.ofString "\\u" = [CodePoint.ofChar '\\', CodePoint.ofChar 'u'] := by decide
  rw [unicodeEscape, hw]
  rfl

/-- An escape is read as what it is taken for, with all that it takes. -/
theorem readChars_taken {c d : CodePoint} (taken : Text) {t : Text}
    (hx : unicodeEscape? (Text.ofHex 4 c.val ++ (taken ++ t)) = some (d, taken.length + 4)) :
    readChars start read 0 (unicodeEscape c ++ (taken ++ t)) = readChars start (d :: read) 0 t := by
  have hq : CodePoint.ofChar '\\' ≠ CodePoint.ofChar '"' := by decide
  have hs := readChars_skip start (d :: read) (CodePoint.ofChar 'u' :: (Text.ofHex 4 c.val ++ taken)) t
  rw [unicodeEscape_eq, List.cons_append, List.cons_append, readChars, if_neg hq, if_pos rfl]
  simp only [if_true, hx]
  rw [List.cons_append, List.append_assoc] at hs
  rw [← hs, Text.ofHex_four]
  rfl

/-- An escape that no trailing half follows names its own code point. -/
theorem readChars_unicodeEscape {c : CodePoint} (h : c.val < 0x10000) (d : CodePoint) (t : Text)
    (hl : c.isLeading → escapedTrailing? (d :: t) = none) :
    readChars start read 0 (unicodeEscape c ++ d :: t) = readChars start (c :: read) 0 (d :: t) := by
  refine readChars_taken start read [] ?_
  have hd : (Text.ofHex 4 c.val ++ d :: t).drop 4 = d :: t := rfl
  rw [List.nil_append, unicodeEscape?, hexCode?_ofHex h, Option.map_some, CodePoint.ofNat_val, hd]
  cases hc : c.isLeading with
  | false => rfl
  | true => rw [if_pos rfl, hl hc]; rfl

theorem toPair_val {c : CodePoint} (h : 0x10000 ≤ c.val) :
    c.toPair.1.val = 0xD800 + (c.val - 0x10000) / 0x400 ∧ c.toPair.2.val = 0xDC00 + (c.val - 0x10000) % 0x400 := by
  have hc := c.lt
  simp only [CodePoint.toPair]
  rw [CodePoint.val_ofNat (n := 0xD800 + _) (by omega), CodePoint.val_ofNat (n := 0xDC00 + _) (by omega)]
  exact ⟨rfl, rfl⟩

theorem isLeading_toPair {c : CodePoint} (h : 0x10000 ≤ c.val) : c.toPair.1.isLeading := by
  have hc := c.lt
  simp only [CodePoint.isLeading, toPair_val h, Bool.and_eq_true, decide_eq_true_eq]
  omega

theorem isTrailing_toPair {c : CodePoint} (h : 0x10000 ≤ c.val) : c.toPair.2.isTrailing := by
  simp only [CodePoint.isTrailing, toPair_val h, Bool.and_eq_true, decide_eq_true_eq]
  omega

theorem escapedTrailing?_unicodeEscape {c : CodePoint} (h : c.val < 0x10000) (d : CodePoint) (t : Text) :
    escapedTrailing? (unicodeEscape c ++ d :: t) = if c.isTrailing then some c else none := by
  rw [unicodeEscape_eq, List.cons_append, List.cons_append, escapedTrailing?, if_pos ⟨rfl, rfl⟩, hexCode?_ofHex h,
    CodePoint.ofNat_val]
  rfl

/-- Two escapes in a row name the code point that they are the halves of. -/
theorem readChars_pair {a b : CodePoint} (ha : a.isLeading) (hb : b.isTrailing) (d : CodePoint) (t : Text) :
    readChars start read 0 (unicodeEscape a ++ unicodeEscape b ++ d :: t) =
      readChars start (.ofPair a b :: read) 0 (d :: t) := by
  have hal : a.val < 0x10000 := by
    simp only [CodePoint.isLeading, Bool.and_eq_true, decide_eq_true_eq] at ha
    omega
  have hbl : b.val < 0x10000 := by
    simp only [CodePoint.isTrailing, Bool.and_eq_true, decide_eq_true_eq] at hb
    omega
  have hlen : (unicodeEscape b).length = 6 := by rw [unicodeEscape_eq]; rfl
  have hd : (Text.ofHex 4 a.val ++ (unicodeEscape b ++ d :: t)).drop 4 = unicodeEscape b ++ d :: t := rfl
  have hx : hexCode? (Text.ofHex 4 a.val ++ (unicodeEscape b ++ d :: t)) = some (.ofNat a.val) := by
    rw [unicodeEscape_eq b, List.cons_append]
    exact hexCode?_ofHex hal _ _
  rw [List.append_assoc]
  refine readChars_taken start read (unicodeEscape b) ?_
  rw [unicodeEscape?, hx, Option.map_some, CodePoint.ofNat_val, hd, if_pos ha,
    escapedTrailing?_unicodeEscape hbl, if_pos hb, hlen]

/-- A character is read back from the way it is written, as long as the text does not end there. -/
theorem readChars_escaped (ascii : Bool) (c d : CodePoint) (t : Text)
    (hl : ascii → c.isLeading → escapedTrailing? (d :: t) = none) :
    readChars start read 0 (escaped ascii c ++ d :: t) = readChars start (c :: read) 0 (d :: t) := by
  cases hs : shortEscape c with
  | some e =>
    obtain ⟨e, rfl, hu, he⟩ := shortEscape?_of_shortEscape hs
    simp only [escaped, hs]
    exact readChars_shortEscape start read hu he (d :: t)
  | none =>
    simp only [escaped, hs]
    split
    · have hc : c.isLeading = false := by
        simp only [CodePoint.isLeading, Bool.and_eq_false_iff, decide_eq_false_iff_not]
        omega
      exact readChars_unicodeEscape start read (by omega) d t fun h => by rw [hc] at h; cases h
    split
    · have hq : c ≠ CodePoint.ofChar '"' := fun e => absurd (e ▸ hs) (by decide)
      have hb : c ≠ CodePoint.ofChar '\\' := fun e => absurd (e ▸ hs) (by decide)
      rw [List.singleton_append, readChars, if_neg hq, if_neg hb, if_neg (by omega)]
    · rename_i ha
      simp only [Bool.or_eq_true, Bool.not_eq_true', not_or, Bool.not_eq_false] at ha
      split
      · exact readChars_unicodeEscape start read ‹_› d t (hl ha.1)
      · have hc : 0x10000 ≤ c.val := by omega
        rw [readChars_pair start read (isLeading_toPair hc) (isTrailing_toPair hc), c.ofPair_toPair hc]

/-- No trailing half is named where a character that is none is written in ASCII. -/
theorem escapedTrailing?_escaped {c : CodePoint} (h : c.isTrailing = false) (d : CodePoint) (t : Text) :
    escapedTrailing? (escaped true c ++ d :: t) = none := by
  cases hs : shortEscape c with
  | some e =>
    obtain ⟨e, rfl, hu, he⟩ := shortEscape?_of_shortEscape hs
    simp only [escaped, hs]
    exact if_neg fun hb => hu hb.2
  | none =>
    have hb : c ≠ CodePoint.ofChar '\\' := fun e => absurd (e ▸ hs) (by decide)
    simp only [escaped, hs, Bool.not_true, Bool.false_or, decide_eq_true_eq]
    split
    · rw [escapedTrailing?_unicodeEscape (by omega), h]
      rfl
    split
    · exact if_neg fun hc => hb hc.1
    split
    · rw [escapedTrailing?_unicodeEscape ‹_›, h]
      rfl
    · have hc := c.lt
      have hv := toPair_val (c := c) (by omega)
      have ht : c.toPair.1.isTrailing = false := by
        simp only [CodePoint.isTrailing, hv.1, Bool.and_eq_false_iff, decide_eq_false_iff_not]
        omega
      rw [List.append_assoc, unicodeEscape_eq c.toPair.2, List.cons_append,
        escapedTrailing?_unicodeEscape (by omega), ht]
      rfl

theorem escapedTrailing?_flatMap {c : CodePoint} {t : Text} (hu : Text.isUnsplit (c :: t)) (hc : c.isLeading)
    (rest : Text) : escapedTrailing? (t.flatMap (escaped true) ++ CodePoint.ofChar '"' :: rest) = none := by
  cases t with
  | nil => cases rest <;> rfl
  | cons d t =>
    simp only [Text.isUnsplit, hc, Bool.true_and, Bool.and_eq_true, Bool.not_eq_true'] at hu
    obtain ⟨e, u, he⟩ : ∃ e u, t.flatMap (escaped true) ++ CodePoint.ofChar '"' :: rest = e :: u :=
      List.exists_cons_of_ne_nil (by simp)
    rw [List.flatMap_cons, List.append_assoc, he]
    exact escapedTrailing?_escaped hu.1 e u

theorem isUnsplit_tail {c : CodePoint} {t : Text} (h : Text.isUnsplit (c :: t)) : Text.isUnsplit t := by
  cases t with
  | nil => rfl
  | cons d t => exact (Bool.and_eq_true_iff.1 h).2

theorem readChars_flatMap (ascii : Bool) {t : Text} (h : ascii → t.isUnsplit) (rest : Text) :
    readChars start read 0 (t.flatMap (escaped ascii) ++ CodePoint.ofChar '"' :: rest) =
      .ok (read.reverse ++ t, rest) := by
  induction t generalizing read with
  | nil => rw [List.flatMap_nil, List.nil_append, readChars_quote, List.append_nil]
  | cons c t ih =>
    obtain ⟨d, u, hu⟩ : ∃ d u, t.flatMap (escaped ascii) ++ CodePoint.ofChar '"' :: rest = d :: u :=
      List.exists_cons_of_ne_nil (by simp)
    have hl (ha : ascii) (hc : c.isLeading) : escapedTrailing? (d :: u) = none := by
      rw [← hu, ha]
      exact escapedTrailing?_flatMap (h ha) hc rest
    rw [List.flatMap_cons, List.append_assoc, hu, readChars_escaped _ _ ascii c d u hl, ← hu,
      ih _ fun ha => isUnsplit_tail (h ha), List.reverse_cons, List.append_assoc]
    rfl

end Strings

namespace Numeral

/-- The digits behind the point, if there are any. -/
def fractionText (fraction : Text) : Text := if fraction = [] then [] else CodePoint.ofChar '.' :: fraction

def exponentText : Option (Bool × Text) → Text
  | none => []
  | some (negative, digits) => CodePoint.ofChar 'e' :: CodePoint.ofChar (if negative then '-' else '+') :: digits

/-- The numeral as it is written. -/
def text (n : Numeral) : Text :=
  (if n.negative then [CodePoint.ofChar '-'] else []) ++
    (n.whole ++ (fractionText n.fraction ++ exponentText n.exponent))

/-- A numeral of digits, with no zero in front of others and a digit in its exponent, if it has one. -/
structure IsWritten (n : Numeral) : Prop where
  whole : n.whole = [CodePoint.ofChar '0'] ∨ ∃ c t, n.whole = c :: t ∧ c ≠ CodePoint.ofChar '0'
  digits : ∀ c ∈ n.whole, c.isDigit
  fraction : ∀ c ∈ n.fraction, c.isDigit
  exponent : ∀ e ∈ n.exponent, e.2 ≠ [] ∧ ∀ c ∈ e.2, c.isDigit

end Numeral

section Numerals

/-- The text does not begin with a digit. -/
def EndsDigits (rest : Text) : Prop := ∀ c ∈ rest.head?, c.isDigit = false

/-- What follows cannot be part of a number. -/
def EndsNumber (rest : Text) : Prop :=
  ∀ c ∈ rest.head?, c.isDigit = false ∧ c ≠ CodePoint.ofChar '.' ∧ c ≠ CodePoint.ofChar 'e' ∧
    c ≠ CodePoint.ofChar 'E'

theorem leadingDigits_append {ds rest : Text} (hr : EndsDigits rest) (hd : ∀ c ∈ ds, c.isDigit) :
    leadingDigits (ds ++ rest) = ds ∧ (ds ++ rest).dropWhile CodePoint.isDigit = rest := by
  rw [leadingDigits, List.takeWhile_append_of_pos hd, List.dropWhile_append_of_pos hd]
  cases rest with
  | nil => exact ⟨List.append_nil ds, rfl⟩
  | cons c t =>
    have hc := hr c rfl
    rw [List.takeWhile_cons_of_neg (by simp [hc]), List.dropWhile_cons_of_neg (by simp [hc])]
    exact ⟨List.append_nil ds, rfl⟩

variable {n : Numeral} (hn : n.IsWritten)

include hn in
theorem wholePart?_append {rest : Text} (hr : EndsDigits rest) :
    wholePart? (n.whole ++ rest) = some (n.whole, rest) := by
  have hd := hn.digits
  rcases hn.whole with hw | ⟨c, t, hw, hc⟩
  · rw [hw]
    rfl
  · rw [hw] at hd ⊢
    obtain ⟨hl, hw⟩ := leadingDigits_append hr fun d h => hd d (List.mem_cons_of_mem _ h)
    rw [List.cons_append, wholePart?, if_neg hc, if_pos (hd c (List.mem_cons_self ..)), hl, hw]

include hn in
theorem fractionPart_append {rest : Text} (hr : EndsDigits rest)
    (hp : ∀ c ∈ rest.head?, c ≠ CodePoint.ofChar '.') :
    fractionPart (Numeral.fractionText n.fraction ++ rest) = (n.fraction, rest) := by
  rw [Numeral.fractionText]
  split
  · rename_i hf
    rw [hf, List.nil_append]
    cases rest with
    | nil => rfl
    | cons c t => rw [fractionPart, if_neg fun h => hp c rfl h.1]
  · rename_i hf
    obtain ⟨hl, hw⟩ := leadingDigits_append hr hn.fraction
    rw [List.cons_append, fractionPart, hl, hw, if_pos ⟨rfl, hf⟩]

include hn in
theorem exponentPart_append {rest : Text} (hr : EndsNumber rest) :
    exponentPart (Numeral.exponentText n.exponent ++ rest) = (n.exponent, rest) := by
  have he := hn.exponent
  cases hx : n.exponent with
  | none =>
    cases rest with
    | nil => rfl
    | cons c t =>
      have hc : ¬ (c = CodePoint.ofChar 'e' ∨ c = CodePoint.ofChar 'E') := fun h =>
        h.elim (hr c rfl).2.2.1 (hr c rfl).2.2.2
      simp only [Numeral.exponentText, List.nil_append, exponentPart, hc, false_and, if_false]
  | some e =>
    obtain ⟨negative, digits⟩ := e
    obtain ⟨hne, hd⟩ := he _ hx
    obtain ⟨hl, hw⟩ := leadingDigits_append (fun c hc => (hr c hc).1) hd
    have hs : Integer.sign (CodePoint.ofChar (if negative then '-' else '+') :: (digits ++ rest)) =
        (negative, digits ++ rest) := by
      cases negative <;> rfl
    simp only [Numeral.exponentText, List.cons_append, exponentPart, hs, hl, hw, true_or, true_and, if_pos hne]

theorem endsDigits_exponentText (e : Option (Bool × Text)) {rest : Text} (hr : EndsNumber rest) :
    EndsDigits (Numeral.exponentText e ++ rest) ∧
      ∀ c ∈ (Numeral.exponentText e ++ rest).head?, c ≠ CodePoint.ofChar '.' := by
  cases e with
  | none => exact ⟨fun c hc => (hr c hc).1, fun c hc => (hr c hc).2.1⟩
  | some e =>
    refine ⟨fun c hc => ?_, fun c hc => ?_⟩
    · obtain rfl : CodePoint.ofChar 'e' = c := Option.some.inj hc
      decide
    · obtain rfl : CodePoint.ofChar 'e' = c := Option.some.inj hc
      decide

theorem endsDigits_fractionText (fraction : Text) {rest : Text} (hr : EndsDigits rest) :
    EndsDigits (Numeral.fractionText fraction ++ rest) := by
  rw [Numeral.fractionText]
  split
  · exact hr
  · intro c hc
    obtain rfl : CodePoint.ofChar '.' = c := Option.some.inj hc
    decide

/-- A numeral begins with a digit, or with a sign before one. -/
theorem Numeral.IsWritten.head_text (hn : n.IsWritten) :
    ∃ c t, c.isDigit ∧ n.whole ++ (fractionText n.fraction ++ exponentText n.exponent) = c :: t ∧
      n.text = if n.negative then CodePoint.ofChar '-' :: c :: t else c :: t := by
  obtain ⟨c, t, hw⟩ : ∃ c t, n.whole = c :: t := by
    rcases hn.whole with hw | ⟨c, t, hw, -⟩
    · exact ⟨_, [], hw⟩
    · exact ⟨c, t, hw⟩
  refine ⟨c, _, hn.digits c (hw ▸ List.mem_cons_self ..), by rw [hw, List.cons_append], ?_⟩
  rw [text, hw]
  split <;> rfl

/-- A numeral is read as what it is written from, up to what cannot belong to it. -/
theorem numeral?_text (hn : n.IsWritten) {rest : Text} (hr : EndsNumber rest) :
    numeral? (n.text ++ rest) = some (n, rest) := by
  obtain ⟨hx, hp⟩ := endsDigits_exponentText n.exponent hr
  have hw := wholePart?_append hn (endsDigits_fractionText n.fraction hx)
  have hf := fractionPart_append hn hx hp
  have he := exponentPart_append hn hr
  obtain ⟨c, t, hc, hb, ht⟩ := hn.head_text
  have hm : c ≠ CodePoint.ofChar '-' := CodePoint.ne_of_isDigit hc (by decide)
  rw [← List.append_assoc, ← List.append_assoc, List.append_assoc n.whole, hb, List.cons_append] at hw
  rw [ht]
  cases hneg : n.negative with
  | true =>
    simp only [numeral?, if_true, List.cons_append, hw, Option.map_some, hf, he]
    rw [← hneg]
  | false =>
    simp only [numeral?, Bool.false_eq_true, if_false, List.cons_append, if_neg hm, hw, Option.map_some, hf, he]
    rw [← hneg]

end Numerals

/-- The numeral of an integer. -/
def Numeral.ofInt (n : Int) : Numeral := ⟨n < 0, Text.ofNat n.natAbs, [], none⟩

theorem Numeral.isWritten_ofInt (n : Int) : (ofInt n).IsWritten where
  whole := by
    rcases Nat.eq_zero_or_pos n.natAbs with h | h
    · exact .inl (by rw [ofInt, h]; rfl)
    · exact .inr (Text.head_ofNat h)
  digits := fun _ h => Text.isDigit_of_mem_ofNat h
  fraction := fun _ h => absurd h List.not_mem_nil
  exponent := fun _ h => by cases h

theorem Numeral.text_ofInt (n : Int) : (ofInt n).text = Text.ofInt n := by
  simp only [text, ofInt, fractionText, exponentText, Text.ofInt, decide_eq_true_eq, if_true, List.append_nil]
  split <;> rfl

theorem natOfDigits_ofNat (n : Nat) : natOfDigits (Text.ofNat n) = n := by
  have h (cs : List Char) (m : Nat) : (cs.map CodePoint.ofChar).foldl
      (fun n c => n * 10 + c.digitValue) m = Nat.ofDigitChars 10 cs m := by
    simp only [Nat.ofDigitChars_eq_foldl, List.foldl_map, CodePoint.digitValue_ofChar, Nat.mul_comm 10]
  rw [natOfDigits, Text.ofNat, h, Nat.ofDigitChars_toDigits (by decide) (by decide)]

/-- An integer that is shown is what its digits are read as. -/
theorem Numeral.toJson_ofInt {n : Int} (h : Integer.isShown n) : (ofInt n).toJson = .ok (.int n) := by
  have hl := Integer.length_ofNat_le h
  have hv : (if n < 0 then -(n.natAbs : Int) else n.natAbs) = n := by split <;> omega
  simp only [ofInt, toJson, Nat.not_lt.2 hl, if_false, natOfDigits_ofNat, decide_eq_true_eq, hv]

end Json

end LspEndpoint
