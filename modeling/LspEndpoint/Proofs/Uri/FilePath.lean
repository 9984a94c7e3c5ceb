import LspEndpoint.Proofs.Text.Pieces
import LspEndpoint.Proofs.Text.Utf8
import LspEndpoint.Uri.Path

/-!
The URIs of files. An absolute path is written behind the scheme and the authority byte by byte, the bytes that could
mean something else as escapes. No part of such a URI is taken for another, and the path is read back from it.
-/
namespace LspEndpoint

theorem CodePoint.isAsciiLetter_toAsciiLower (c : CodePoint) : c.toAsciiLower.isAsciiLetter = c.isAsciiLetter := by
  unfold toAsciiLower
  split
  · rename_i h
    simp only [Bool.and_eq_true, decide_eq_true_eq] at h
    have hv : (ofNat (c.val + 0x20)).val = c.val + 0x20 := val_ofNat (by omega)
    rw [Bool.eq_iff_iff]
    simp only [isAsciiLetter, hv, Bool.or_eq_true, Bool.and_eq_true, decide_eq_true_eq]
    omega
  · rfl

namespace Uri

/-- The characters that stand for themselves in the path of a URI. -/
def isPlain (c : CodePoint) : Bool :=
  c.isAsciiLetter || c.isDigit || c = '-' || c = '.' || c = '_' || c = '~' || c = '/'

/-- The text is those bytes, each plain one as its character and all others as escapes, whose digits may be of either
case. -/
inductive Escapes : Bytes → Text → Prop
  | nil : Escapes [] []
  | plain {b : UInt8} {bytes : Bytes} {t : Text} (plain : isPlain (CodePoint.ofNat b.toNat))
      (rest : Escapes bytes t) : Escapes (b :: bytes) (CodePoint.ofNat b.toNat :: t)
  | escaped {b : UInt8} {bytes : Bytes} {high low : CodePoint} {t : Text}
      (special : ¬ isPlain (CodePoint.ofNat b.toNat)) (digits : high.hexValue? = some (b.toNat / 16) ∧
        low.hexValue? = some (b.toNat % 16)) (rest : Escapes bytes t) :
      Escapes (b :: bytes) (CodePoint.ofChar '%' :: high :: low :: t)

/-- A URI that says where a file is: by the scheme in any case, no authority or the local one, and the path. -/
structure Locates (uri path : Text) : Prop where
  absolute : ∃ rest, path = CodePoint.ofChar '/' :: rest
  isScalar : path.isScalar
  written : ∃ scheme authority escaped, uri = scheme ++ "://" ++ authority ++ escaped ∧
    scheme.toAsciiLower = "file" ∧ (authority = [] ∨ authority = "localhost") ∧
    Escapes (path.flatMap CodePoint.utf8) escaped

section Characters

variable {c : CodePoint}

theorem val_of_isPlain (h : isPlain c) :
    0x20 < c.val ∧ c.val < 0x80 ∧ c.val ≠ 0x23 ∧ c.val ≠ 0x25 ∧ c.val ≠ 0x3F := by
  simp only [isPlain, CodePoint.isAsciiLetter, CodePoint.isDigit, Bool.or_eq_true, Bool.and_eq_true,
    decide_eq_true_eq] at h
  rcases h with ((((((h | h) | h) | rfl) | rfl) | rfl) | rfl) | rfl
  · omega
  · omega
  · omega
  all_goals decide

theorem isPlain_of_hexValue? {n : Nat} (h : c.hexValue? = some n) : isPlain c := by
  have hv : (0x30 ≤ c.val ∧ c.val ≤ 0x39) ∨ (0x61 ≤ c.val ∧ c.val ≤ 0x66) ∨
      (0x41 ≤ c.val ∧ c.val ≤ 0x46) := by
    unfold CodePoint.hexValue? at h
    split at h
    · exact .inl ‹_›
    split at h
    · exact .inr (.inl ‹_›)
    split at h
    · exact .inr (.inr ‹_›)
    · cases h
  simp only [isPlain, CodePoint.isAsciiLetter, CodePoint.isDigit, Bool.or_eq_true, Bool.and_eq_true,
    decide_eq_true_eq]
  omega

end Characters

namespace Escapes

variable {bytes : Bytes} {t : Text}

theorem isPlain_or_of_mem (h : Escapes bytes t) {c : CodePoint} (hc : c ∈ t) : isPlain c ∨ c = '%' := by
  induction h with
  | nil => cases hc
  | plain plain _ ih =>
    rcases List.mem_cons.1 hc with rfl | hc
    · exact .inl plain
    · exact ih hc
  | escaped _ digits _ ih =>
    simp only [List.mem_cons] at hc
    rcases hc with rfl | rfl | rfl | hc
    · exact .inr rfl
    · exact .inl (isPlain_of_hexValue? digits.1)
    · exact .inl (isPlain_of_hexValue? digits.2)
    · exact ih hc

theorem val_of_mem (h : Escapes bytes t) {c : CodePoint} (hc : c ∈ t) :
    0x20 < c.val ∧ c.val ≠ 0x23 ∧ c.val ≠ 0x3F := by
  rcases h.isPlain_or_of_mem hc with hp | rfl
  · obtain ⟨hlow, -, hhash, -, hquestion⟩ := val_of_isPlain hp
    exact ⟨hlow, hhash, hquestion⟩
  · decide

/-- Whatever was read before, the escapes are read as the bytes. -/
theorem percentDecodeFrom_eq (h : Escapes bytes t) (d : Bytes.Decoding) :
    percentDecodeFrom d 0 t = (bytes.foldl Bytes.Decoding.step d).finish := by
  induction h generalizing d with
  | nil => rfl
  | @plain b bytes t plain rest ih =>
    have hb : (CodePoint.ofNat b.toNat).val = b.toNat := CodePoint.val_ofNat (by have := b.toNat_lt; omega)
    obtain ⟨-, hascii, -, hpercent, -⟩ := val_of_isPlain plain
    have hne : CodePoint.ofNat b.toNat ≠ CodePoint.ofChar '%' := fun e => hpercent (congrArg CodePoint.val e)
    have hnone : escapedByte? (CodePoint.ofNat b.toNat :: t) = none := by
      unfold escapedByte?
      split
      · rename_i he
        cases he
        rw [if_neg hne]
      · rfl
    have hisAscii : (CodePoint.ofNat b.toNat).isAscii := decide_eq_true hascii
    rw [percentDecodeFrom, hnone]
    dsimp only
    rw [if_pos hisAscii, hb, UInt8.ofNat_toNat, ih]
    rfl
  | @escaped b bytes high low t special digits rest ih =>
    have hvalue : b.toNat / 16 * 16 + b.toNat % 16 = b.toNat := by omega
    have hbyte : escapedByte? (CodePoint.ofChar '%' :: high :: low :: t) = some b := by
      rw [escapedByte?, if_pos rfl, digits.1, digits.2]
      dsimp only
      rw [hvalue, UInt8.ofNat_toNat]
    rw [percentDecodeFrom, hbyte]
    exact ih (d.step b)

theorem percentDecode_eq {path : Text} (hs : path.isScalar) (h : Escapes (path.flatMap CodePoint.utf8) t) :
    percentDecode t = path := by
  rw [percentDecode, h.percentDecodeFrom_eq]
  exact Bytes.decode_utf8 hs

end Escapes

/-- All bytes can be written so. -/
theorem exists_escapes (bytes : Bytes) : ∃ t, Escapes bytes t := by
  induction bytes with
  | nil => exact ⟨[], .nil⟩
  | cons b bytes ih =>
    obtain ⟨t, ht⟩ := ih
    by_cases hb : isPlain (CodePoint.ofNat b.toNat)
    · exact ⟨_, .plain hb ht⟩
    · have hlt := b.toNat_lt
      have hhigh : (CodePoint.hexDigit (b.toNat / 16)).hexValue? = some (b.toNat / 16) := by
        rw [CodePoint.hexValue?_hexDigit, Nat.mod_eq_of_lt (by omega)]
      exact ⟨_, .escaped hb ⟨hhigh, CodePoint.hexValue?_hexDigit _⟩ ht⟩

/-- Every absolute path has a URI that locates it. -/
theorem exists_locates {path : Text} (absolute : ∃ rest, path = CodePoint.ofChar '/' :: rest)
    (isScalar : path.isScalar) : ∃ uri, Locates uri path := by
  obtain ⟨escaped, h⟩ := exists_escapes (path.flatMap CodePoint.utf8)
  exact ⟨_, absolute, isScalar, "file", [], escaped, rfl, by decide, .inl rfl, h⟩

/-- Nothing but what cannot be split is malformed. -/
theorem toPath_eq_malformed {uri : Text} {e : Error} : toPath uri = .error (.malformed e) ↔ split uri = .error e := by
  unfold toPath
  cases split uri with
  | error e' => simp
  | ok parts =>
    simp only [reduceCtorEq, iff_false]
    split
    · exact nofun
    · split <;> exact nofun

/-- Nothing is dropped from a text without blanks and control characters. -/
theorem cleaned_eq_self {uri : Text} (h : ∀ c ∈ uri, 0x20 < c.val) : cleaned uri = uri := by
  have hdrop : (uri.dropWhile fun c => c.val ≤ 0x20) = uri := by
    cases uri with
    | nil => rfl
    | cons c t =>
      have hc := h c (List.mem_cons_self ..)
      rw [List.dropWhile_cons_of_neg (by simp only [decide_eq_true_eq]; omega)]
  rw [cleaned, hdrop, List.filter_eq_self]
  intro c hc
  have hlow := h c hc
  simp only [isRemoved, Bool.not_eq_true', Bool.or_eq_false_iff, beq_eq_false_iff_ne]
  omega

section Scheme

variable {scheme : Text} (h : scheme.toAsciiLower = Text.ofString "file")
include h

theorem isAsciiLetter_of_mem_scheme {c : CodePoint} (hc : c ∈ scheme) : c.isAsciiLetter := by
  have hletters : ∀ d ∈ Text.ofString "file", d.isAsciiLetter := by decide
  rw [← CodePoint.isAsciiLetter_toAsciiLower]
  exact hletters _ (h ▸ List.mem_map_of_mem hc)

theorem val_of_mem_scheme {c : CodePoint} (hc : c ∈ scheme) : 0x20 < c.val ∧ c.val ≠ 0x3A := by
  have hletter := isAsciiLetter_of_mem_scheme h hc
  simp only [CodePoint.isAsciiLetter, Bool.or_eq_true, Bool.and_eq_true, decide_eq_true_eq] at hletter
  omega

/-- The scheme of a file is found in any case. -/
theorem splitScheme_append (rest : Text) :
    splitScheme (scheme ++ CodePoint.ofChar ':' :: rest) = (Text.ofString "file", rest) := by
  have hcolon : CodePoint.ofChar ':' ∉ scheme := fun hm => (val_of_mem_scheme h hm).2 rfl
  have hscheme : isScheme scheme := by
    cases scheme with
    | nil => exact absurd h (by decide)
    | cons c t =>
      simp only [isScheme, Bool.and_eq_true, List.all_eq_true]
      refine ⟨isAsciiLetter_of_mem_scheme h (List.mem_cons_self ..), fun d hd => ?_⟩
      simp only [isSchemeCharacter, isAsciiLetter_of_mem_scheme h (List.mem_cons_of_mem _ hd), Bool.true_or]
  rw [splitScheme, Text.after?_append hcolon]
  dsimp only
  rw [Text.before_append hcolon, if_pos hscheme, h]

end Scheme

/-- The authority ends where the path begins. -/
theorem splitAuthority_append {authority : Text} (h : ∀ c ∈ authority, endsAuthority c = false) (path : Text) :
    splitAuthority (Text.ofString "//" ++ (authority ++ CodePoint.ofChar '/' :: path)) =
      (authority, CodePoint.ofChar '/' :: path) := by
  have hauthority : ∀ c ∈ authority, (!endsAuthority c) = true := fun c hc => by rw [h c hc, Bool.not_false]
  have hstart : Text.startsWith (Text.ofString "//" ++ (authority ++ CodePoint.ofChar '/' :: path)) "//" := by
    rw [Text.startsWith, List.isPrefixOf_iff_prefix]
    exact List.prefix_append ..
  have hslash : endsAuthority (CodePoint.ofChar '/') := by decide
  have hlength : (Text.ofString "//").length = 2 := by decide
  rw [splitAuthority, if_pos hstart]
  dsimp only
  rw [List.drop_left' hlength, List.takeWhile_append_of_pos hauthority, List.dropWhile_append_of_pos hauthority]
  simp [hslash]

/-- The parts of the URI of a file. -/
theorem split_of_written {scheme authority path : Text} (hscheme : scheme.toAsciiLower = Text.ofString "file")
    (hauthority : authority = [] ∨ authority = Text.ofString "localhost")
    (hpath : ∀ c ∈ CodePoint.ofChar '/' :: path, 0x20 < c.val ∧ c.val ≠ 0x23 ∧ c.val ≠ 0x3F) :
    split (scheme ++ "://" ++ authority ++ CodePoint.ofChar '/' :: path) =
      .ok ⟨"file", authority, CodePoint.ofChar '/' :: path⟩ := by
  have hlocal : (∀ c ∈ authority, 0x20 < c.val ∧ endsAuthority c = false) ∧ bracketFault? authority = none ∧
      hidesDelimiter authority = false := by
    rcases hauthority with rfl | rfl <;> decide
  obtain ⟨hchars, hbrackets, hdelimiters⟩ := hlocal
  have hmark : ∀ c ∈ Text.ofString "://", 0x20 < c.val := by decide
  have hclean : cleaned (scheme ++ "://" ++ authority ++ CodePoint.ofChar '/' :: path) =
      scheme ++ "://" ++ authority ++ CodePoint.ofChar '/' :: path := by
    refine cleaned_eq_self fun c hc => ?_
    simp only [List.mem_append] at hc
    rcases hc with ((hc | hc) | hc) | hc
    · exact (val_of_mem_scheme hscheme hc).1
    · exact hmark c hc
    · exact (hchars c hc).1
    · exact (hpath c hc).1
  have hcut : scheme ++ Text.ofString "://" ++ authority ++ CodePoint.ofChar '/' :: path =
      scheme ++ CodePoint.ofChar ':' :: (Text.ofString "//" ++ (authority ++ CodePoint.ofChar '/' :: path)) := by
    simp [Text.ofString]
  have hhash : CodePoint.ofChar '#' ∉ CodePoint.ofChar '/' :: path := fun hm => (hpath _ hm).2.1 rfl
  have hquestion : CodePoint.ofChar '?' ∉ CodePoint.ofChar '/' :: path := fun hm => (hpath _ hm).2.2 rfl
  rw [split, hclean, hcut, splitScheme_append hscheme]
  dsimp only
  rw [splitAuthority_append fun c hc => (hchars c hc).2]
  dsimp only
  rw [hbrackets, hdelimiters, Text.before_eq_self hhash, Text.before_eq_self hquestion]
  rfl

/-- The path of a file is read back from its URI. -/
theorem toPath_of_locates {uri path : Text} (h : Locates uri path) : toPath uri = .ok path := by
  obtain ⟨⟨rest, rfl⟩, hs, scheme, authority, escaped, rfl, hscheme, hauthority, hescapes⟩ := h
  have hdecoded := hescapes.percentDecode_eq hs
  have hchars {c : CodePoint} (hc : c ∈ escaped) := hescapes.val_of_mem hc
  -- The slash in front of the path stands for itself.
  obtain ⟨t, rfl⟩ : ∃ t, escaped = CodePoint.ofChar '/' :: t := by
    have hslash : (CodePoint.ofChar '/').utf8 = [0x2F] := by decide
    rw [List.flatMap_cons, hslash] at hescapes
    cases hescapes with
    | plain _ _ => exact ⟨_, rfl⟩
    | escaped special _ _ => exact absurd (by decide) special
  rw [toPath, split_of_written hscheme hauthority fun c hc => hchars hc]
  dsimp only
  rw [if_neg (by decide), if_pos rfl, Parts.toPath]
  dsimp only
  rw [if_pos hauthority, hdecoded]

end Uri

end LspEndpoint
