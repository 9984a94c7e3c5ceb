import LspEndpoint.Text.Utf8

/-!
Text as names of files, programs and variables. The surrogates U+DC80 to U+DCFF stand for single bytes
that are no UTF-8, so they may occur; any other lone surrogate has no native form.
-/
namespace LspEndpoint

namespace CodePoint

def isEscapedByte (c : CodePoint) : Bool := 0xDC80 ≤ c.val && c.val ≤ 0xDCFF

def isNative (c : CodePoint) : Bool := c.isScalar || c.isEscapedByte

def native (c : CodePoint) : Bytes :=
  if c.isEscapedByte then [UInt8.ofNat (c.val - 0xDC00)] else c.utf8

end CodePoint

namespace Text

/-- The first run of surrogates that keeps the text from having a native form. -/
def nonNative? (t : Text) : Option Unencodable :=
  match t.dropWhile CodePoint.isNative with
  | [] => none
  | c :: rest => some
      { encoding := "utf-8", text := t, start := (t.takeWhile CodePoint.isNative).length,
        length := ((c :: rest).takeWhile CodePoint.isSurrogate).length }

def isNative (t : Text) : Bool := t.all CodePoint.isNative

theorem nonNative?_eq_none {t : Text} : t.nonNative? = none ↔ t.isNative := by
  unfold nonNative? isNative
  induction t with
  | nil => simp
  | cons c t ih =>
    by_cases h : c.isNative
    · simp only [List.dropWhile_cons, h, if_true, List.all_cons, Bool.true_and]
      rw [← ih]
      cases t.dropWhile CodePoint.isNative <;> simp
    · simp [h]

theorem isNative_of_isScalar {t : Text} (h : t.isScalar) : t.isNative := by
  simp only [isScalar, isNative, List.all_eq_true] at h ⊢
  intro c hc
  simp [CodePoint.isNative, h c hc]

/-- The bytes of a text that has a native form. -/
def native (t : Text) : Bytes := t.flatMap CodePoint.native

/-- The native form as octets, each held as the code point of its number. -/
def octets (t : Text) : Text := t.native.map fun b => CodePoint.ofNat b.toNat

/-- The bytes that octets stand for. -/
def bytes (t : Text) : Bytes := t.map fun c => UInt8.ofNat c.val

end Text

end LspEndpoint
