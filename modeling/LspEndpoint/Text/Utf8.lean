import LspEndpoint.Text.Quoted

/-!
UTF-8. Writing fails at the first run of lone surrogates. Reading never fails: each maximal beginning
of a sequence that goes on wrongly becomes one replacement character.
-/
namespace LspEndpoint

abbrev Bytes := List UInt8

/-- A run of lone surrogates that an encoding of the text has no form for. -/
structure Unencodable where
  encoding : String
  text : Text
  start : Nat
  length : Nat
deriving DecidableEq

namespace Unencodable

def message (e : Unencodable) : Text :=
  let place := match e.length, e.text.drop e.start with
    | 1, c :: _ => "character '" ++ c.hexEscape ++ "' in position " ++ Text.ofNat e.start
    | n, _ => "characters in position " ++ Text.ofNat e.start ++ "-" ++ Text.ofNat (e.start + n - 1)
  "'" ++ Text.ofString e.encoding ++ "' codec can't encode " ++ place ++ ": surrogates not allowed"

end Unencodable

namespace CodePoint

def utf8 (c : CodePoint) : Bytes :=
  if c.val < 0x80 then [UInt8.ofNat c.val]
  else if c.val < 0x800 then [UInt8.ofNat (0xC0 + c.val / 0x40), UInt8.ofNat (0x80 + c.val % 0x40)]
  else if c.val < 0x10000 then
    [UInt8.ofNat (0xE0 + c.val / 0x1000), UInt8.ofNat (0x80 + c.val / 0x40 % 0x40),
      UInt8.ofNat (0x80 + c.val % 0x40)]
  else
    [UInt8.ofNat (0xF0 + c.val / 0x40000), UInt8.ofNat (0x80 + c.val / 0x1000 % 0x40),
      UInt8.ofNat (0x80 + c.val / 0x40 % 0x40), UInt8.ofNat (0x80 + c.val % 0x40)]

end CodePoint

namespace Text

/-- Where a UTF-8 form fails, if it does. -/
def surrogateRun? (t : Text) : Option Unencodable :=
  match t.dropWhile CodePoint.isScalar with
  | [] => none
  | c :: rest => some
      { encoding := "utf-8", text := t, start := (t.takeWhile CodePoint.isScalar).length,
        length := ((c :: rest).takeWhile CodePoint.isSurrogate).length }

theorem surrogateRun?_eq_none {t : Text} : t.surrogateRun? = none ↔ t.isScalar := by
  unfold surrogateRun? isScalar
  induction t with
  | nil => simp
  | cons c t ih =>
    by_cases h : c.isScalar
    · simp only [List.dropWhile_cons, h, if_true, List.all_cons, Bool.true_and]
      rw [← ih]
      cases t.dropWhile CodePoint.isScalar <;> simp
    · simp [h]

def utf8 (t : Text) : Except Unencodable Bytes :=
  match t.surrogateRun? with
  | some e => .error e
  | none => .ok (t.flatMap CodePoint.utf8)

theorem utf8_of_isScalar {t : Text} (h : t.isScalar) : t.utf8 = .ok (t.flatMap CodePoint.utf8) := by
  simp [utf8, surrogateRun?_eq_none.2 h]

end Text

namespace Bytes

/-- A sequence that has begun: the bits so far, how many bytes are owed, and the bounds of the
next one. -/
structure Pending where
  bits : Nat
  owed : Nat
  low : UInt8
  high : UInt8

/-- Text read so far, backwards, and a sequence that has begun. -/
structure Decoding where
  read : Text
  pending : Option Pending

/-- A byte that starts a sequence. -/
def begin (read : Text) (b : UInt8) : Decoding :=
  if b < 0x80 then ⟨CodePoint.ofNat b.toNat :: read, none⟩
  else if b < 0xC2 then ⟨CodePoint.replacement :: read, none⟩
  else if b < 0xE0 then ⟨read, some ⟨b.toNat - 0xC0, 1, 0x80, 0xBF⟩⟩
  else if b = 0xE0 then ⟨read, some ⟨0, 2, 0xA0, 0xBF⟩⟩
  else if b = 0xED then ⟨read, some ⟨0xD, 2, 0x80, 0x9F⟩⟩
  else if b < 0xF0 then ⟨read, some ⟨b.toNat - 0xE0, 2, 0x80, 0xBF⟩⟩
  else if b = 0xF0 then ⟨read, some ⟨0, 3, 0x90, 0xBF⟩⟩
  else if b < 0xF4 then ⟨read, some ⟨b.toNat - 0xF0, 3, 0x80, 0xBF⟩⟩
  else if b = 0xF4 then ⟨read, some ⟨4, 3, 0x80, 0x8F⟩⟩
  else ⟨CodePoint.replacement :: read, none⟩

def Decoding.step (d : Decoding) (b : UInt8) : Decoding :=
  match d.pending with
  | none => Bytes.begin d.read b
  | some p =>
    if p.low ≤ b ∧ b ≤ p.high then
      let bits := p.bits * 0x40 + (b.toNat - 0x80)
      if p.owed ≤ 1 then ⟨CodePoint.ofNat bits :: d.read, none⟩
      else ⟨d.read, some ⟨bits, p.owed - 1, 0x80, 0xBF⟩⟩
    else Bytes.begin (CodePoint.replacement :: d.read) b

def Decoding.finish (d : Decoding) : Text :=
  match d.pending with
  | none => d.read.reverse
  | some _ => (CodePoint.replacement :: d.read).reverse

/-- The text of UTF-8 bytes, ill-formed sequences replaced. -/
def decode (bytes : Bytes) : Text := (bytes.foldl Decoding.step ⟨[], none⟩).finish

/-- The text of ASCII bytes, all others replaced. -/
def decodeAscii (bytes : Bytes) : Text :=
  bytes.map fun b => if b < 0x80 then CodePoint.ofNat b.toNat else CodePoint.replacement

example : decode [0x61, 0xE2, 0x82, 0xC3, 0xA9, 0xED, 0xA0, 0x80] =
    [0x61, 0xFFFD, 0xE9, 0xFFFD, 0xFFFD, 0xFFFD].map CodePoint.ofNat := by decide

end Bytes

end LspEndpoint
