import LspEndpoint.Yaml.Failure

/-!
A place in a YAML text. The end of the text shows as the null character, which no YAML text holds. A
byte order mark takes no column.
-/
namespace LspEndpoint.Yaml

def isBreak (c : CodePoint) : Bool :=
  c.val == 0x0A || c.val == 0x0D || c.val == 0x85 || c.val == 0x2028 || c.val == 0x2029

def isEnd (c : CodePoint) : Bool := c.val == 0

def isBreakOrEnd (c : CodePoint) : Bool := isBreak c || isEnd c

def isSpace (c : CodePoint) : Bool := c.val == 0x20

/-- What may stand behind a directive, a tag or a block header. -/
def isStop (c : CodePoint) : Bool := isBreakOrEnd c || isSpace c

/-- What may stand behind an indicator: white space or the end. -/
def isGap (c : CodePoint) : Bool := isStop c || c.val == 0x09

def isSpaceOrTab (c : CodePoint) : Bool := isSpace c || c.val == 0x09

def isNameCharacter (c : CodePoint) : Bool :=
  c.isDigit || c.isAsciiLetter || c = '-' || c = '_'

/-- Whether the code point is one of the characters of the string. -/
def isOneOf (s : String) (c : CodePoint) : Bool := (Text.ofString s).contains c

structure Cursor where
  rest : Text
  size : Nat
  index : Nat
  line : Nat
  column : Nat

namespace Cursor

def start (t : Text) : Cursor := ⟨t, t.length, 0, 0, 0⟩

/-- A bound on the steps from here to the end of the text. -/
def bound (c : Cursor) : Nat := c.size - c.index + 1

def peekAt (c : Cursor) (n : Nat) : CodePoint := (c.rest.drop n).headD (CodePoint.ofNat 0)

def peek (c : Cursor) : CodePoint := c.rest.headD (CodePoint.ofNat 0)

def next (c : Cursor) : Cursor :=
  match c.rest with
  | [] => c
  | d :: rest =>
    if isBreak d && !(d.val == 0x0D && (rest.headD d).val == 0x0A) then
      { c with rest, index := c.index + 1, line := c.line + 1, column := 0 }
    else if d.val == 0xFEFF then { c with rest, index := c.index + 1 }
    else { c with rest, index := c.index + 1, column := c.column + 1 }

def advance : Nat → Cursor → Cursor
  | 0, c => c
  | n + 1, c => advance n c.next

/-- The characters of a kind that come next, and the place behind them. -/
def span (p : CodePoint → Bool) (c : Cursor) : Text × Cursor :=
  let t := c.rest.takeWhile p
  (t, c.advance t.length)

def skip (p : CodePoint → Bool) (c : Cursor) : Cursor := (c.span p).2

/-- A line break in its normal form, and the place behind it; nothing if none comes next. -/
def lineBreak (c : Cursor) : Text × Cursor :=
  if c.peek.val == 0x0D && (c.peekAt 1).val == 0x0A then (['\n'], c.advance 2)
  else if c.peek.val == 0x2028 || c.peek.val == 0x2029 then ([c.peek], c.next)
  else if isBreak c.peek then (['\n'], c.next)
  else ([], c)

def startsWith (c : Cursor) (s : String) : Bool := Text.startsWith c.rest s

/-- Whether a mark of that text comes next, with nothing attached to it. -/
def isMark (c : Cursor) (s : String) : Bool := c.startsWith s && isGap (c.peekAt 3)

/-- Whether a document starts or ends here. -/
def isDocumentMark (c : Cursor) : Bool := c.isMark "---" || c.isMark "..."

end Cursor

/-- The characters that a YAML text may hold. -/
def isAllowed (c : CodePoint) : Bool :=
  c.val == 0x09 || c.val == 0x0A || c.val == 0x0D || (0x20 ≤ c.val && c.val ≤ 0x7E) ||
  c.val == 0x85 || (0xA0 ≤ c.val && c.val ≤ 0xD7FF) || (0xE000 ≤ c.val && c.val ≤ 0xFFFD) ||
  0x10000 ≤ c.val

end LspEndpoint.Yaml
