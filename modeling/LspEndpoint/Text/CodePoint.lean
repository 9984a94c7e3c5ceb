/-!
Text as a list of code points. A surrogate counts as a code point of its own: an escape sequence can
name one that no partner follows, and such text is kept as it came although it has no UTF-8 form.
-/
namespace LspEndpoint

structure CodePoint where
  val : Nat
  lt : val < 0x110000
deriving DecidableEq

namespace CodePoint

instance : Inhabited CodePoint := ⟨0, by decide⟩

def replacement : CodePoint := ⟨0xFFFD, by decide⟩

/-- The code point of that number, the replacement character when there is none. -/
def ofNat (n : Nat) : CodePoint :=
  if h : n < 0x110000 then ⟨n, h⟩ else replacement

theorem val_ofNat {n : Nat} (h : n < 0x110000) : (ofNat n).val = n := by
  simp [ofNat, h]

@[simp] theorem ofNat_val (c : CodePoint) : ofNat c.val = c := by
  simp [ofNat, c.lt]

theorem val_injective {a b : CodePoint} (h : a.val = b.val) : a = b := by
  cases a; cases b; cases h; rfl

def ofChar (c : Char) : CodePoint :=
  ⟨c.val.toNat, by have h := c.valid; simp only [UInt32.isValidChar, Nat.isValidChar] at h; omega⟩

instance : Coe Char CodePoint := ⟨ofChar⟩

theorem ofChar_injective {a b : Char} (h : ofChar a = ofChar b) : a = b :=
  Char.ext (UInt32.toNat_inj.1 (congrArg val h))

def isSurrogate (c : CodePoint) : Bool := 0xD800 ≤ c.val && c.val < 0xE000

/-- The first half of a surrogate pair. -/
def isLeading (c : CodePoint) : Bool := 0xD800 ≤ c.val && c.val < 0xDC00

/-- The second half of a surrogate pair. -/
def isTrailing (c : CodePoint) : Bool := 0xDC00 ≤ c.val && c.val < 0xE000

theorem isSurrogate_eq (c : CodePoint) : c.isSurrogate = (c.isLeading || c.isTrailing) := by
  simp only [isSurrogate, isLeading, isTrailing]
  by_cases h : c.val < 0xDC00 <;> by_cases g : 0xD800 ≤ c.val <;>
    simp [h, g] <;> omega

/-- The supplementary code point that a surrogate pair stands for. -/
def ofPair (leading trailing : CodePoint) : CodePoint :=
  ofNat (0x10000 + (leading.val - 0xD800) * 0x400 + (trailing.val - 0xDC00))

/-- The surrogate pair of a supplementary code point. -/
def toPair (c : CodePoint) : CodePoint × CodePoint :=
  (ofNat (0xD800 + (c.val - 0x10000) / 0x400), ofNat (0xDC00 + (c.val - 0x10000) % 0x400))

theorem ofPair_toPair (c : CodePoint) (h : 0x10000 ≤ c.val) :
    ofPair c.toPair.1 c.toPair.2 = c := by
  have hc := c.lt
  apply val_injective
  simp only [ofPair, toPair]
  rw [val_ofNat (n := 0xD800 + _) (by omega), val_ofNat (n := 0xDC00 + _) (by omega),
    val_ofNat (by omega)]
  omega

def isScalar (c : CodePoint) : Bool := !c.isSurrogate

def toChar (c : CodePoint) : Char :=
  if c.isSurrogate then Char.ofNat 0xFFFD else Char.ofNat c.val

def isDigit (c : CodePoint) : Bool := 0x30 ≤ c.val && c.val ≤ 0x39

/-- The value of an ASCII digit. -/
def digitValue (c : CodePoint) : Nat := c.val - 0x30

/-- The value of a hexadecimal digit of either case. -/
def hexValue? (c : CodePoint) : Option Nat :=
  if 0x30 ≤ c.val ∧ c.val ≤ 0x39 then some (c.val - 0x30)
  else if 0x61 ≤ c.val ∧ c.val ≤ 0x66 then some (c.val - 0x57)
  else if 0x41 ≤ c.val ∧ c.val ≤ 0x46 then some (c.val - 0x37)
  else none

/-- The lower-case hexadecimal digit of a number below sixteen. -/
def hexDigit (n : Nat) : CodePoint :=
  ofNat (if n % 16 < 10 then 0x30 + n % 16 else 0x57 + n % 16)

theorem hexValue?_hexDigit (n : Nat) : (hexDigit n).hexValue? = some (n % 16) := by
  have h : n % 16 < 16 := Nat.mod_lt _ (by decide)
  unfold hexDigit
  by_cases g : n % 16 < 10
  · rw [if_pos g, hexValue?, val_ofNat (by omega), if_pos (by omega)]
    simp
  · rw [if_neg g, hexValue?, val_ofNat (by omega), if_neg (by omega), if_pos (by omega)]
    simp

def isAscii (c : CodePoint) : Bool := c.val < 0x80

def isAsciiLetter (c : CodePoint) : Bool :=
  (0x41 ≤ c.val && c.val ≤ 0x5A) || (0x61 ≤ c.val && c.val ≤ 0x7A)

/-- An ASCII capital becomes its small letter, everything else stays. -/
def toAsciiLower (c : CodePoint) : CodePoint :=
  if 0x41 ≤ c.val && c.val ≤ 0x5A then ofNat (c.val + 0x20) else c

end CodePoint

abbrev Text := List CodePoint

namespace Text

def ofString (s : String) : Text := s.toList.map CodePoint.ofChar

instance : Coe String Text := ⟨ofString⟩

theorem ofString_injective {a b : String} (h : ofString a = ofString b) : a = b :=
  String.toList_inj.1 ((List.map_inj_right fun _ _ => CodePoint.ofChar_injective).1 h)

/-- The text as a string; a lone surrogate shows as the replacement character. -/
def toString (t : Text) : String := String.ofList (t.map CodePoint.toChar)

/-- No lone surrogates, so that the text has a UTF-8 form. -/
def isScalar (t : Text) : Bool := t.all CodePoint.isScalar

/-- Comparison code point by code point, a proper beginning coming first. -/
def le : Text → Text → Bool
  | [], _ => true
  | _ :: _, [] => false
  | a :: s, b :: t => a.val < b.val || (a.val == b.val && le s t)

def ofNat (n : Nat) : Text := (Nat.toDigits 10 n).map CodePoint.ofChar

def ofInt (n : Int) : Text :=
  if n < 0 then (CodePoint.ofChar '-') :: ofNat n.natAbs else ofNat n.natAbs

/-- The last `width` hexadecimal digits of a number, leading zeros kept. -/
def ofHex : (width : Nat) → Nat → Text
  | 0, _ => []
  | width + 1, n => ofHex width (n / 16) ++ [CodePoint.hexDigit n]

/-- Decimal digits at a fixed width, leading zeros kept. -/
def padded (width n : Nat) : Text :=
  let digits := ofNat n
  List.replicate (width - digits.length) (CodePoint.ofChar '0') ++ digits

def toAsciiLower (t : Text) : Text := t.map CodePoint.toAsciiLower

def startsWith (t : Text) (s : String) : Bool := (ofString s).isPrefixOf t

/-- The texts with a separator between each two. -/
def joined (separator : Text) : List Text → Text
  | [] => []
  | t :: ts => t ++ ts.flatMap (separator ++ ·)

end Text

end LspEndpoint
