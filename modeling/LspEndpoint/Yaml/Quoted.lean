import LspEndpoint.Yaml.Plain

/-!
Quoted scalars. Between single quotes only the quote itself is special, written twice; between double
quotes a backslash starts an escape. Lines are joined as in plain scalars.
-/
namespace LspEndpoint.Yaml

/-- The escapes of one letter. -/
def escapeTable : List (Char × Nat) :=
  [('0', 0x00), ('a', 0x07), ('b', 0x08), ('t', 0x09), ('\t', 0x09), ('n', 0x0A), ('v', 0x0B),
   ('f', 0x0C), ('r', 0x0D), ('e', 0x1B), (' ', 0x20), ('"', 0x22), ('\\', 0x5C), ('/', 0x2F),
   ('N', 0x85), ('_', 0xA0), ('L', 0x2028), ('P', 0x2029)]

def escapeLetter? (c : CodePoint) : Option CodePoint :=
  (escapeTable.find? fun e => CodePoint.ofChar e.1 = c).map fun e => CodePoint.ofNat e.2

/-- How many hexadecimal digits an escape takes. -/
def escapeDigits? (c : CodePoint) : Option Nat :=
  if c = 'x' then some 2 else if c = 'u' then some 4 else if c = 'U' then some 8 else none

/-- The value of hexadecimal digits, if there are as many as wanted. -/
def hexNumber? (count : Nat) (t : Text) : Option Nat :=
  let digits := t.take count
  if digits.length = count && digits.all fun c => c.hexValue?.isSome then
    some (digits.foldl (fun n c => n * 16 + c.hexValue?.getD 0) 0)
  else none

/-- The character of a number, which may be a lone surrogate. -/
def character (n : Nat) : Parsed CodePoint :=
  if h : n < 0x110000 then .ok ⟨n, h⟩
  else if n < 0x80000000 then .error .noCharacter
  else .error .characterTooLarge

/-- The line breaks that come next, with the white space around them dropped. A document may not start
or end among them. -/
def quotedBreaks : (bound : Nat) → Cursor → Parsed (Text × Cursor)
  | 0, c => .ok ([], c)
  | bound + 1, c =>
    if c.isDocumentMark then .error .malformed
    else
      let c := c.skip isSpaceOrTab
      if isBreak c.peek then do
        let (b, c) := c.lineBreak
        let (more, c) ← quotedBreaks bound c
        return (b ++ more, c)
      else .ok ([], c)

def breaksFrom (c : Cursor) : Parsed (Text × Cursor) := quotedBreaks c.bound c

/-- What an escape behind a backslash stands for; an escaped line break stands for the breaks that
follow it. -/
def escaped (c : Cursor) : Parsed (Text × Cursor) :=
  match escapeLetter? c.peek with
  | some d => .ok ([d], c.next)
  | none =>
    match escapeDigits? c.peek with
    | some count =>
      match hexNumber? count c.next.rest with
      | some n => (character n).map fun d => ([d], c.next.advance count)
      | none => .error .malformed
    | none => if isBreak c.peek then breaksFrom c.lineBreak.2 else .error .malformed

/-- The part of a quoted scalar up to white space or the closing quote. -/
def quotedPart (double : Bool) : (bound : Nat) → Cursor → Parsed (Text × Cursor)
  | 0, c => .ok ([], c)
  | bound + 1, c => do
    let take (t : Text) (c : Cursor) : Parsed (Text × Cursor) := do
      let (more, c) ← quotedPart double bound c
      return (t ++ more, c)
    if isGap c.peek then return ([], c)
    else if c.peek = '\'' && !double then
      if c.peekAt 1 = '\'' then take ['\''] (c.advance 2) else return ([], c)
    else if c.peek = '"' && double then return ([], c)
    else if c.peek = '\\' && double then
      let (t, c) ← escaped c.next
      take t c
    else take [c.peek] c.next

/-- The white space inside a quoted scalar. -/
def quotedGap (c : Cursor) : Parsed (Text × Cursor) := do
  let (spaces, c) := c.span isSpaceOrTab
  if isEnd c.peek then .error .malformed
  else if isBreak c.peek then
    let (first, c) := c.lineBreak
    let (more, c) ← breaksFrom c
    return (fold first more, c)
  else return (spaces, c)

def quotedFrom (double : Bool) (quote : CodePoint) : (bound : Nat) → Cursor → Parsed (Text × Cursor)
  | 0, _ => .error .malformed
  | bound + 1, c => do
    let (t, c) ← quotedPart double c.bound c
    if c.peek = quote then return (t, c.next)
    let (gap, c) ← quotedGap c
    let (more, c) ← quotedFrom double quote bound c
    return (t ++ gap ++ more, c)

/-- The scalar whose opening quote comes next. -/
def quoted (c : Cursor) : Parsed (Text × Cursor) :=
  quotedFrom (c.peek = '"') c.peek c.bound c.next

end LspEndpoint.Yaml
