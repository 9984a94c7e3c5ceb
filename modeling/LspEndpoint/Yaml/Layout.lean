import LspEndpoint.Yaml.Property

/-!
The tokens of a YAML text, read as they are asked for. Outside flow collections the columns say where
collections start and end. That a place is a key shows only at the colon behind it: the place is
remembered until then, on the same line and for at most 1024 characters, and the tokens for the key are
put in where it was. A token is therefore given out only when it can no longer be the start of a key, and
no text is read beyond what that takes.
-/
namespace LspEndpoint.Yaml

/-- A place that is a key if a colon follows. It must be one when it stands where its mapping goes on. -/
structure Candidate where
  position : Nat
  isRequired : Bool
  index : Nat
  line : Nat
  column : Nat

/-- The longest key that has no mark in front. -/
def maxKeyLength : Nat := 1024

/-- How far a text is read: the column of the innermost block collection and of those around it, the
candidate in the innermost flow collection and in those around it, whether a key may come next, the
tokens that are read and not yet given out, how many were given out, and whether the text has ended. -/
structure Layout where
  cursor : Cursor
  indent : Int
  outer : List Int
  candidate : Option Candidate
  around : List (Option Candidate)
  keyAllowed : Bool
  tokens : List Token
  taken : Nat
  ended : Bool

namespace Layout

def start (t : Text) : Layout :=
  let c := Cursor.start t
  ⟨if c.peek.val = 0xFEFF then c.next else c, -1, [], none, [], true, [], 0, false⟩

def inFlow (l : Layout) : Bool := !l.around.isEmpty

/-- The place of the next token among all. -/
def position (l : Layout) : Nat := l.taken + l.tokens.length

def emit (t : Token) (l : Layout) : Layout := { l with tokens := l.tokens ++ [t] }

/-- Puts tokens where the one of that place was. -/
def insert (position : Nat) (ts : List Token) (l : Layout) : Layout :=
  let before := position - l.taken
  { l with tokens := l.tokens.take before ++ ts ++ l.tokens.drop before }

/-- Passes over white space and comments. -/
def skipBlank : (bound : Nat) → Layout → Layout
  | 0, l => l
  | bound + 1, l =>
    let c := l.cursor.skip isSpace
    let c := if c.peek = '#' then c.skip fun d => !isBreakOrEnd d else c
    if isBreak c.peek then
      skipBlank bound { l with cursor := c.lineBreak.2, keyAllowed := l.keyAllowed || !l.inFlow }
    else { l with cursor := c }

def isStale (c : Cursor) (k : Candidate) : Bool :=
  k.line ≠ c.line || maxKeyLength < c.index - k.index

/-- A candidate that can still become a key. -/
def fresh (c : Cursor) : Option Candidate → Parsed (Option Candidate)
  | none => .ok none
  | some k =>
    if !isStale c k then .ok (some k)
    else if k.isRequired then .error .malformed
    else .ok none

def dropStale (l : Layout) : Parsed Layout := do
  let candidate ← fresh l.cursor l.candidate
  let around ← l.around.mapM (fresh l.cursor)
  return { l with candidate, around }

/-- Ends the block collections that start right of a column. -/
def unwindTo (column : Int) (l : Layout) : Layout :=
  if l.inFlow then l else go l.outer l
where
  go : List Int → Layout → Layout
    | [], l => l
    | i :: outer, l => if column < l.indent then go outer { l.emit .blockEnd with indent := i, outer }
        else l

/-- Starts a block collection if the column is right of the innermost one. -/
def openBlock (t : Token) (column : Nat) (l : Layout) : Layout :=
  if !l.inFlow && l.indent < column then
    { l.emit t with indent := column, outer := l.indent :: l.outer }
  else l

/-- Gives up the candidate. -/
def forget (l : Layout) : Parsed Layout :=
  if l.candidate.any Candidate.isRequired then .error .malformed
  else .ok { l with candidate := none }

/-- Remembers this place as a candidate, if a key may stand here. -/
def remember (l : Layout) : Parsed Layout := do
  if l.keyAllowed then
    let l ← l.forget
    let c := l.cursor
    let isRequired : Bool := !l.inFlow && l.indent = c.column
    return { l with candidate := some ⟨l.position, isRequired, c.index, c.line, c.column⟩ }
  else return l

/-- Steps over an indicator. -/
def mark (width : Nat) (t : Token) (keyAllowed : Bool) (l : Layout) : Layout :=
  { l.emit t with cursor := l.cursor.advance width, keyAllowed }

def documentMark (t : Token) (l : Layout) : Parsed Layout :=
  return (← (l.unwindTo (-1)).forget).mark 3 t false

def directiveLine (l : Layout) : Parsed Layout := do
  let l ← (l.unwindTo (-1)).forget
  let (d, cursor) ← directive l.cursor
  return { l.emit (.directive d) with cursor, keyAllowed := false }

def openFlow (t : Token) (l : Layout) : Parsed Layout := do
  let l ← l.remember
  return { l.mark 1 t true with candidate := none, around := l.candidate :: l.around }

def closeFlow (t : Token) (l : Layout) : Parsed Layout := do
  let l ← l.forget
  match l.around with
  | [] => .error .malformed
  | candidate :: around => return { l.mark 1 t false with candidate, around }

/-- An indicator that outside flow collections may stand only where a key may, and starts a block
collection there if it is right of the innermost one. -/
def indicator (collection t : Token) (keyAllowed : Bool) (l : Layout) : Parsed Layout := do
  if !l.inFlow && !l.keyAllowed then .error .malformed
  else return (← (l.openBlock collection l.cursor.column).forget).mark 1 t keyAllowed

/-- The colon behind a candidate. -/
def keyed (k : Candidate) (l : Layout) : Layout :=
  let starts := !l.inFlow && l.indent < k.column
  let l := l.insert k.position (if starts then [.blockMapping, .key] else [.key])
  let l := if starts then { l with indent := k.column, outer := l.indent :: l.outer } else l
  { l with candidate := none }.mark 1 .value false

def colon (l : Layout) : Parsed Layout :=
  match l.candidate with
  | some k => return l.keyed k
  | none => l.indicator .blockMapping .value !l.inFlow

/-- A property or scalar that can be, or start, a key. -/
def content (read : Cursor → Parsed (Token × Cursor)) (l : Layout) : Parsed Layout := do
  let l ← l.remember
  let (t, cursor) ← read l.cursor
  return { l.emit t with cursor, keyAllowed := false }

def blockScalar (l : Layout) : Parsed Layout := do
  let l ← l.forget
  let (t, cursor) ← block l.indent l.cursor
  return { l.emit (.scalar t false) with cursor, keyAllowed := true }

def plainScalar (l : Layout) : Parsed Layout := do
  let l ← l.remember
  let s := plain l.inFlow (l.indent + 1) l.cursor
  return { l.emit (.scalar s.text true) with cursor := s.behind, keyAllowed := s.atLineStart }

/-- Whether a plain scalar starts here. -/
def startsPlain (l : Layout) : Bool :=
  let c := l.cursor.peek
  (!isGap c && !isOneOf "-?:,[]\x7b\x7d#&*!|>'\"%@`" c) ||
    (!isGap (l.cursor.peekAt 1) && (c = '-' || (!l.inFlow && (c = '?' || c = ':'))))

/-- One more token, at a place that is neither white space nor the end. -/
def next (l : Layout) : Parsed Layout :=
  let c := l.cursor.peek
  let isSeparate := l.inFlow || isGap (l.cursor.peekAt 1)
  let atStart : Bool := l.cursor.column = 0
  if atStart && c = '%' then l.directiveLine
  else if atStart && l.cursor.isMark "---" then l.documentMark .documentStart
  else if atStart && l.cursor.isMark "..." then l.documentMark .documentEnd
  else if c = '[' then l.openFlow .flowSequence
  else if c = '{' then l.openFlow .flowMapping
  else if c = ']' then l.closeFlow .flowSequenceEnd
  else if c = '}' then l.closeFlow .flowMappingEnd
  else if c = ',' then return (← l.forget).mark 1 .comma true
  else if c = '-' && isGap (l.cursor.peekAt 1) then l.indicator .blockSequence .item true
  else if c = '?' && isSeparate then l.indicator .blockMapping .key !l.inFlow
  else if c = ':' && isSeparate then l.colon
  else if c = '*' then l.content fun c => (anchorName c).map fun r => (.alias r.1, r.2)
  else if c = '&' then l.content fun c => (anchorName c).map fun r => (.anchor r.1, r.2)
  else if c = '!' then l.content fun c => (tagName c).map fun r => (.tag r.1, r.2)
  else if (c = '|' || c = '>') && !l.inFlow then l.blockScalar
  else if c = '\'' || c = '"' then l.content fun c => (quoted c).map fun r => (.scalar r.1 false, r.2)
  else if l.startsPlain then l.plainScalar
  else .error .malformed

/-- The end of the text. -/
def finish (l : Layout) : Parsed Layout :=
  return { ← (l.unwindTo (-1)).forget with keyAllowed := false, candidate := none, ended := true }

/-- Reads on by one token, or to the end. -/
def more (l : Layout) : Parsed Layout := do
  let l ← (l.skipBlank l.cursor.bound).dropStale
  let l := l.unwindTo l.cursor.column
  if isEnd l.cursor.peek then l.finish else l.next

/-- Whether the token in front can be the start of a key. -/
def isUndecided (l : Layout) : Bool :=
  (l.candidate :: l.around).any fun k => k.any fun k => k.position == l.taken

/-- Reads on until the token in front is certain. -/
def settle : (bound : Nat) → Layout → Parsed Layout
  | 0, _ => .error .malformed
  | bound + 1, l =>
    if l.ended then .ok l
    else if l.tokens.isEmpty then do settle bound (← l.more)
    else do
      let l ← l.dropStale
      if l.isUndecided then settle bound (← l.more) else return l

/-- The token in front, none at the end of the text, and the layout that has read it. -/
def front (l : Layout) : Parsed (Option Token × Layout) := do
  let l ← l.settle (l.cursor.bound + 1)
  return (l.tokens.head?, l)

def drop (l : Layout) : Layout := { l with tokens := l.tokens.tail, taken := l.taken + 1 }

end Layout

end LspEndpoint.Yaml
