import LspEndpoint.Text.Utf8
import LspEndpoint.Yaml.Block
import LspEndpoint.Yaml.Quoted
import LspEndpoint.Yaml.Token

/-!
Names of anchors, tags and directives. A tag may escape the octets of its characters; an anchor's name
has letters, digits, hyphens and underscores only.
-/
namespace LspEndpoint.Yaml

/-- A name that is not empty. -/
def name (c : Cursor) : Parsed (Text × Cursor) :=
  match c.span isNameCharacter with
  | ([], _) => .error .malformed
  | r => .ok r

/-- The name behind an indicator, up to white space or another indicator. -/
def anchorName (c : Cursor) : Parsed (Text × Cursor) := do
  let (t, c) ← name c.next
  if isGap c.peek || isOneOf "?:,]\x7d%@`" c.peek then return (t, c) else .error .malformed

def isTagCharacter (c : CodePoint) : Bool :=
  isNameCharacter c || isOneOf ";/?:@&=+$,.!~*'()[]" c

/-- The octets that come next, each written as two hexadecimal digits behind a percent sign. -/
def escapedBytes : (bound : Nat) → Cursor → Parsed (Bytes × Cursor)
  | 0, c => .ok ([], c)
  | bound + 1, c =>
    if c.peek = '%' then
      match hexNumber? 2 c.next.rest with
      | some n => do
        let (more, c) ← escapedBytes bound (c.advance 3)
        return (UInt8.ofNat n :: more, c)
      | none => .error .malformed
    else .ok ([], c)

/-- The text that escaped octets spell. -/
def spelled (bytes : Bytes) : Parsed Text :=
  let t := bytes.decode
  if t.flatMap CodePoint.utf8 = bytes then .ok t else .error .malformed

def tagText : (bound : Nat) → Cursor → Parsed (Text × Cursor)
  | 0, c => .ok ([], c)
  | bound + 1, c => do
    if c.peek = '%' then
      let (bytes, c) ← escapedBytes c.bound c
      let t ← spelled bytes
      let (more, c) ← tagText bound c
      return (t ++ more, c)
    else
      match c.span isTagCharacter with
      | ([], c) => return ([], c)
      | (t, c) =>
        let (more, c) ← tagText bound c
        return (t ++ more, c)

/-- A part of a tag that is not empty. -/
def tagPart (c : Cursor) : Parsed (Text × Cursor) := do
  match ← tagText c.bound c with
  | ([], _) => .error .malformed
  | r => return r

/-- One exclamation mark, or a name between two. -/
def tagHandle (c : Cursor) : Parsed (Text × Cursor) :=
  if c.peek ≠ '!' then .error .malformed
  else if isSpace (c.peekAt 1) then .ok ("!", c.next)
  else
    let (t, c) := c.next.span isNameCharacter
    if c.peek = '!' then .ok ("!" ++ t ++ "!", c.next) else .error .malformed

def plainTag (c : Cursor) : Parsed (TagName × Cursor) := do
  if c.peekAt 1 = '<' then
    let (suffix, c) ← tagPart (c.advance 2)
    if c.peek = '>' then return (⟨none, suffix⟩, c.next) else .error .malformed
  else if isGap (c.peekAt 1) then return (⟨none, "!"⟩, c.next)
  else
    let word := c.next.rest.takeWhile fun d => !isStop d
    let (handle, c) ← if word.contains '!' then tagHandle c else pure ("!", c.next)
    let (suffix, c) ← tagPart c
    return (⟨some handle, suffix⟩, c)

/-- The tag whose exclamation mark comes next. -/
def tagName (c : Cursor) : Parsed (TagName × Cursor) := do
  let (t, c) ← plainTag c
  if isStop c.peek then return (t, c) else .error .malformed

def number (c : Cursor) : Parsed (Nat × Cursor) :=
  match c.span CodePoint.isDigit with
  | ([], _) => .error .malformed
  | (t, c) =>
    if maxIntegerDigits < t.length then .error (.integer (.tooManyDigits t.length))
    else .ok (t.foldl (fun n d => n * 10 + d.digitValue) 0, c)

def versionDirective (c : Cursor) : Parsed (Directive × Cursor) := do
  let (major, c) ← number (c.skip isSpace)
  if c.peek ≠ '.' then .error .malformed
  else
    let (minor, c) ← number c.next
    if isStop c.peek then return (.version major minor, c) else .error .malformed

def handleDirective (c : Cursor) : Parsed (Directive × Cursor) := do
  let (handle, c) ← tagHandle (c.skip isSpace)
  if !isSpace c.peek then .error .malformed
  else
    let (start, c) ← tagPart (c.skip isSpace)
    if isStop c.peek then return (.handle handle start, c) else .error .malformed

/-- The directive whose percent sign comes next, with the rest of its line. -/
def directive (c : Cursor) : Parsed (Directive × Cursor) := do
  let (word, c) ← name c.next
  if !isStop c.peek then .error .malformed
  else
    let (d, c) ←
      if word = "YAML" then versionDirective c
      else if word = "TAG" then handleDirective c
      else pure (.unknown, c.skip fun d => !isBreakOrEnd d)
    return (d, ← ignoredLine c)

end LspEndpoint.Yaml
