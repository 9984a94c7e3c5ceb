import LspEndpoint.Text.CodePoint

/-!
White space in the Unicode sense, with trimming and splitting at it. The four information separators
U+001C to U+001F count as white space here, a zero-width space does not.
-/
namespace LspEndpoint

namespace CodePoint

def isBlank (c : CodePoint) : Bool :=
  (0x09 ≤ c.val && c.val ≤ 0x0D) || (0x1C ≤ c.val && c.val ≤ 0x20) || c.val == 0x85 ||
  c.val == 0xA0 || c.val == 0x1680 || (0x2000 ≤ c.val && c.val ≤ 0x200A) ||
  c.val == 0x2028 || c.val == 0x2029 || c.val == 0x202F || c.val == 0x205F || c.val == 0x3000

theorem isBlank_ofChar_of_isWhitespace (c : Char) (h : c.isWhitespace) : (ofChar c).isBlank := by
  simp only [Char.isWhitespace, Bool.or_eq_true, decide_eq_true_eq] at h
  rcases h with ((rfl | rfl) | rfl) | rfl <;> decide

end CodePoint

namespace Text

def trimLeft (t : Text) : Text := t.dropWhile CodePoint.isBlank

def trimRight (t : Text) : Text := (t.reverse.dropWhile CodePoint.isBlank).reverse

def trim (t : Text) : Text := t.trimLeft.trimRight

theorem trimLeft_of_not_blank {c : CodePoint} {t : Text} (h : c.isBlank = false) :
    trimLeft (c :: t) = c :: t := by
  simp [trimLeft, h]

theorem trimRight_of_not_blank {c : CodePoint} {t : Text} (h : c.isBlank = false) :
    trimRight (t ++ [c]) = t ++ [c] := by
  simp [trimRight, h]

/-- The pieces between white space; `word` is the piece being read, backwards. -/
def wordsFrom (word : Text) : Text → List Text
  | [] => if word.isEmpty then [] else [word.reverse]
  | c :: t =>
    if c.isBlank then
      if word.isEmpty then wordsFrom [] t else word.reverse :: wordsFrom [] t
    else wordsFrom (c :: word) t

def words (t : Text) : List Text := wordsFrom [] t

end Text

end LspEndpoint
