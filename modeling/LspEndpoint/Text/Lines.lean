import LspEndpoint.Text.CodePoint

/-!
Lines of a text. Line feed, carriage return, the two together, vertical tab, form feed, U+001C to
U+001E, next line, and the two Unicode separators each end a line.
-/
namespace LspEndpoint

namespace CodePoint

def isLineBreak (c : CodePoint) : Bool :=
  (0x0A ≤ c.val && c.val ≤ 0x0D) || (0x1C ≤ c.val && c.val ≤ 0x1E) || c.val == 0x85 ||
  c.val == 0x2028 || c.val == 0x2029

def isReturn (c : CodePoint) : Bool := c.val == 0x0D

def isFeed (c : CodePoint) : Bool := c.val == 0x0A

end CodePoint

namespace Text

/-- The length of the line break that the text starts with. -/
def breakLength : Text → Nat
  | c :: d :: _ => if c.isReturn && d.isFeed then 2 else if c.isLineBreak then 1 else 0
  | [c] => if c.isLineBreak then 1 else 0
  | [] => 0

/-- The first line up to its line break. -/
def lineBody (t : Text) : Text := t.takeWhile fun c => !c.isLineBreak

/-- The first line's break and all that follows it. -/
def fromBreak (t : Text) : Text := t.dropWhile fun c => !c.isLineBreak

/-- What follows the first line. -/
def dropLine (t : Text) : Text := t.fromBreak.drop t.fromBreak.breakLength

/-- The first line, its line break included. -/
def firstLine (t : Text) : Text := t.lineBody ++ t.fromBreak.take t.fromBreak.breakLength

theorem firstLine_append_dropLine (t : Text) : t.firstLine ++ t.dropLine = t := by
  simp [firstLine, dropLine, lineBody, fromBreak, List.takeWhile_append_dropWhile]

/-- What follows the first `n` lines, nothing if there are fewer. -/
def dropLines : Nat → Text → Text
  | _, [] => []
  | 0, c :: t => c :: t
  | n + 1, c :: t => dropLines n (dropLine (c :: t))

@[simp] theorem dropLines_nil (n : Nat) : dropLines n [] = [] := by
  cases n <;> rfl

@[simp] theorem dropLines_zero (t : Text) : dropLines 0 t = t := by
  cases t <;> rfl

theorem dropLines_succ (n : Nat) (t : Text) : dropLines (n + 1) t = dropLines n t.dropLine := by
  cases t with
  | nil => exact (dropLines_nil n).symm
  | cons c t => rfl

/-- The text without the carriage returns and line feeds at its end. -/
def trimNewlines (t : Text) : Text :=
  (t.reverse.dropWhile fun c => c.isReturn || c.isFeed).reverse

/-- The text with a line feed for every carriage return, or pair of the two. -/
def unifyLines : Text → Text
  | [] => []
  | [c] => if c.isReturn then ['\n'] else [c]
  | c :: d :: t =>
    if c.isReturn then
      if d.isFeed then unifyLines (d :: t) else CodePoint.ofChar '\n' :: unifyLines (d :: t)
    else c :: unifyLines (d :: t)

end Text

end LspEndpoint
