import LspEndpoint.Yaml.Plain

/-!
Block scalars: the indented lines behind a header. A literal one keeps its line breaks, a folded one
joins its lines except where one starts with white space; the header says what becomes of the breaks at
the end.
-/
namespace LspEndpoint.Yaml

/-- What becomes of the line breaks at the end: one is kept, none, or all. -/
inductive Chomping
  | clip
  | strip
  | keep
deriving DecidableEq

structure BlockHeader where
  chomping : Chomping
  indent : Option Nat

def chomping? (c : CodePoint) : Option Chomping :=
  if c = '+' then some .keep else if c = '-' then some .strip else none

/-- An indentation must not be zero. -/
def indentation? (c : CodePoint) : Parsed (Option Nat) :=
  if c.isDigit then
    if c.digitValue = 0 then .error .malformed else .ok (some c.digitValue)
  else .ok none

/-- The header behind its indicator: chomping and indentation in either order. -/
def blockHeader (c : Cursor) : Parsed (BlockHeader × Cursor) := do
  let (header, c) ← match chomping? c.peek with
    | some chomping => do
      match ← indentation? (c.peekAt 1) with
      | some n => pure (BlockHeader.mk chomping (some n), c.advance 2)
      | none => pure (BlockHeader.mk chomping none, c.next)
    | none => do
      match ← indentation? c.peek with
      | none => pure (BlockHeader.mk .clip none, c)
      | some n =>
        match chomping? (c.peekAt 1) with
        | some chomping => pure (BlockHeader.mk chomping (some n), c.advance 2)
        | none => pure (BlockHeader.mk .clip (some n), c.next)
  if isStop c.peek then return (header, c) else .error .malformed

/-- The rest of a line that may only hold a comment, its break included. -/
def ignoredLine (c : Cursor) : Parsed Cursor :=
  let c := c.skip isSpace
  let c := if c.peek = '#' then c.skip fun d => !isBreakOrEnd d else c
  if isBreakOrEnd c.peek then .ok c.lineBreak.2 else .error .malformed

/-- The blank lines before the first line with text, and the deepest column that spaces reach. -/
def leadingBreaks : (bound deepest : Nat) → Cursor → Text × Nat × Cursor
  | 0, deepest, c => ([], deepest, c)
  | bound + 1, deepest, c =>
    if isSpace c.peek then leadingBreaks bound (max deepest c.next.column) c.next
    else if isBreak c.peek then
      let (b, c) := c.lineBreak
      let (more, deepest, c) := leadingBreaks bound deepest c
      (b ++ more, deepest, c)
    else ([], deepest, c)

/-- Spaces up to a column. -/
def skipIndent (indent : Nat) : (bound : Nat) → Cursor → Cursor
  | 0, c => c
  | bound + 1, c =>
    if c.column < indent && isSpace c.peek then skipIndent indent bound c.next else c

/-- The blank lines that come next, and the place where text may start. -/
def blockBreaks (indent : Nat) : (bound : Nat) → Cursor → Text × Cursor
  | 0, c => ([], c)
  | bound + 1, c =>
    let c := skipIndent indent indent c
    if isBreak c.peek then
      let (b, c) := c.lineBreak
      let (more, c) := blockBreaks indent bound c
      (b ++ more, c)
    else ([], c)

def isContent (indent : Nat) (c : Cursor) : Bool := c.column = indent && !isEnd c.peek

/-- What joins a line to the next one. -/
def blockJoin (folded startsBlank nextBlank : Bool) (lineBreak breaks : Text) : Text :=
  if folded && lineBreak = "\n" && !startsBlank && !nextBlank then
    if breaks = [] then " " else []
  else lineBreak

/-- The lines of a block from a place where one starts, with the break at the end and the blank lines
behind it. -/
def blockLines (folded : Bool) (indent : Nat) : (bound : Nat) → (breaks : Text) → Cursor →
    Text × Text × Text × Cursor
  | 0, breaks, c => ([], [], breaks, c)
  | bound + 1, breaks, c =>
    let startsBlank := isSpaceOrTab c.peek
    let (line, c) := c.span fun d => !isBreakOrEnd d
    let (lineBreak, c) := c.lineBreak
    let (after, c) := blockBreaks indent c.bound c
    if isContent indent c then
      let join := blockJoin folded startsBlank (isSpaceOrTab c.peek) lineBreak after
      let (more, last, tail, c) := blockLines folded indent bound after c
      (breaks ++ line ++ join ++ more, last, tail, c)
    else (breaks ++ line, lineBreak, after, c)

def chomp (chomping : Chomping) (lineBreak breaks : Text) : Text :=
  match chomping with
  | .clip => lineBreak
  | .strip => []
  | .keep => lineBreak ++ breaks

/-- The scalar whose indicator comes next, inside a block of that indentation. -/
def block (outer : Int) (c : Cursor) : Parsed (Text × Cursor) := do
  let folded : Bool := c.peek = '>'
  let (header, c) ← blockHeader c.next
  let c ← ignoredLine c
  let least := max (outer + 1) 1
  let (breaks, indent, c) := match header.indent with
    | none =>
      let (breaks, deepest, c) := leadingBreaks c.bound 0 c
      (breaks, max least.toNat deepest, c)
    | some n =>
      let indent := least.toNat + n - 1
      let (breaks, c) := blockBreaks indent c.bound c
      (breaks, indent, c)
  if isContent indent c then
    let (t, lineBreak, breaks, c) := blockLines folded indent c.bound breaks c
    return (t ++ chomp header.chomping lineBreak breaks, c)
  else return (chomp header.chomping [] breaks, c)

end LspEndpoint.Yaml
