import LspEndpoint.Yaml.Cursor

/-!
Plain scalars. Each line ends before a colon or a comment that is set off by white space, inside flow
collections also before their indicators; the lines that follow must be indented, and are joined by
spaces.
-/
namespace LspEndpoint.Yaml

/-- What of a line belongs to a plain scalar. -/
def plainLine (inFlow : Bool) : Text → Text
  | [] => []
  | c :: t =>
    let following := t.headD (CodePoint.ofNat 0)
    if isGap c then []
    else if c = ':' && (isGap following || (inFlow && isOneOf ",[]\x7b\x7d" following)) then []
    else if inFlow && isOneOf ",?[]\x7b\x7d" c then []
    else c :: plainLine inFlow t

/-- The line breaks that come next, with the spaces between them dropped; none if a document starts
or ends among them. -/
def foldedBreaks : (bound : Nat) → Cursor → Option Text × Cursor
  | 0, c => (some [], c)
  | bound + 1, c =>
    if isSpace c.peek then foldedBreaks bound c.next
    else if isBreak c.peek then
      let (b, c) := c.lineBreak
      if c.isDocumentMark then (none, c)
      else
        let (more, c) := foldedBreaks bound c
        (more.map (b ++ ·), c)
    else (some [], c)

/-- What stands between two lines: one line feed becomes a space, further breaks stay. -/
def fold (first more : Text) : Text :=
  if first ≠ "\n" then first ++ more else if more = [] then " " else more

/-- The white space behind a part of a scalar; nothing if the scalar ends with it. -/
structure Gap where
  text : Text
  crossesLine : Bool
  behind : Cursor

def plainGap (c : Cursor) : Gap :=
  let (spaces, c) := c.span isSpace
  if isBreak c.peek then
    let (first, c) := c.lineBreak
    if c.isDocumentMark then ⟨[], true, c⟩
    else
      match foldedBreaks c.bound c with
      | (none, c) => ⟨[], true, c⟩
      | (some more, c) => ⟨fold first more, true, c⟩
  else ⟨spaces, false, c⟩

/-- A scalar, whether a key may follow it on its line, and the place behind it. -/
structure PlainScalar where
  text : Text
  atLineStart : Bool
  behind : Cursor

def plainFrom (inFlow : Bool) (indent : Int) :
    (bound : Nat) → (spaces : Text) → (atLineStart : Bool) → Cursor → PlainScalar
  | 0, _, atLineStart, c => ⟨[], atLineStart, c⟩
  | bound + 1, spaces, atLineStart, c =>
    if c.peek = '#' then ⟨[], atLineStart, c⟩
    else
      match plainLine inFlow c.rest with
      | [] => ⟨[], atLineStart, c⟩
      | line =>
        let gap := plainGap (c.advance line.length)
        let t := spaces ++ line
        if gap.text = [] || gap.behind.peek = '#' || (!inFlow && (gap.behind.column : Int) < indent)
        then ⟨t, gap.crossesLine, gap.behind⟩
        else
          let more := plainFrom inFlow indent bound gap.text gap.crossesLine gap.behind
          { more with text := t ++ more.text }

def plain (inFlow : Bool) (indent : Int) (c : Cursor) : PlainScalar :=
  plainFrom inFlow indent c.bound [] false c

end LspEndpoint.Yaml
