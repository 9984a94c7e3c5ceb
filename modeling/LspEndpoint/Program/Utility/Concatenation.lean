import LspEndpoint.Program.Option
import LspEndpoint.Program.Quoting

/-!
Showing files one behind the other, if wanted with numbers of lines, and with signs for what would not be
seen.
-/
namespace LspEndpoint.Program

/-- What is shown besides the text itself. -/
structure Marking where
  numbers : Bool
  numbersFilled : Bool
  squeezes : Bool
  ends : Bool
  tabs : Bool
  controls : Bool

/-- How far a text has been shown: the number of the last line, the line ends since the last other octet,
where the start counts as one, and whether a carriage return is held back. -/
structure Showing where
  line : Nat
  lineEnds : Nat
  holdsReturn : Bool

namespace Marking

def number (n : Nat) : Text :=
  let digits := Text.ofNat n
  List.replicate (6 - digits.length) (CodePoint.ofChar ' ') ++ digits ++ "\t"

/-- An octet below 128 that controls something, as a caret and a letter. -/
def caret (n : Nat) : Text := ['^', CodePoint.ofNat ((n + 64) % 128)]

/-- An octet that does not end a line. -/
def shown (m : Marking) (c : CodePoint) : Text :=
  let isControl (n : Nat) : Bool := n < 32 || n = 127
  if c.val = 9 then (if m.tabs then caret 9 else [c])
  else if !m.controls then [c]
  else if c.val < 128 then (if isControl c.val then caret c.val else [c])
  else "M-" ++ (if isControl (c.val - 128) then caret (c.val - 128) else [CodePoint.ofNat (c.val - 128)])

/-- Shows one octet more. -/
def step (m : Marking) (s : Showing) (c : CodePoint) : Text × Showing :=
  if c.val = 10 then
    let isBlank := 0 < s.lineEnds
    if m.squeezes && 2 ≤ s.lineEnds then ([], s)
    else
      let isNumbered := isBlank && m.numbers && !m.numbersFilled
      let line := if isNumbered then s.line + 1 else s.line
      let held : Text := if s.holdsReturn then caret 13 else []
      ((if isNumbered then number line else []) ++ held ++ (if m.ends then Text.ofString "$\n" else [c]),
        ⟨line, s.lineEnds + 1, false⟩)
  else
    let held : Text := if s.holdsReturn then [CodePoint.ofNat 13] else []
    let isNumbered := 0 < s.lineEnds && m.numbers
    let line := if isNumbered then s.line + 1 else s.line
    let lead := held ++ if isNumbered then number line else []
    if c.val = 13 && m.ends && !m.controls then (lead, ⟨line, 0, true⟩)
    else (lead ++ m.shown c, ⟨line, 0, false⟩)

/-- Shows a text, and gives how far that led. -/
def run (m : Marking) (s : Showing) (t : Text) : Text × Showing :=
  let (parts, s) := t.foldl
    (fun (parts, s) c =>
      let (shown, s) := m.step s c
      (shown :: parts, s))
    ([], s)
  (parts.reverse.flatten, s)

/-- Shows texts in turn, with complaints in place of some. -/
def all (m : Marking) : Showing → List (Except Chunk Text) → List Chunk
  | s, [] => if s.holdsReturn then [⟨false, [CodePoint.ofNat 13]⟩] else []
  | s, .error complaint :: rest => complaint :: all m s rest
  | s, .ok t :: rest =>
    let (shown, s) := m.run s t
    ⟨false, shown⟩ :: all m s rest

end Marking

namespace Utility

def concatenate : Utility := fun c =>
  c.withOptions
    ⟨"AbeEnstTuv".toList.map (·, .nothing),
      [("number-nonblank", 'b', .nothing), ("number", 'n', .nothing), ("squeeze-blank", 's', .nothing),
        ("show-nonprinting", 'v', .nothing), ("show-ends", 'E', .nothing), ("show-tabs", 'T', .nothing),
        ("show-all", 'A', .nothing)], false⟩
    fun g =>
      let m : Marking :=
        { numbers := g.has 'n' || g.has 'b'
          numbersFilled := g.has 'b'
          squeezes := g.has 's'
          ends := g.has 'E' || g.has 'e' || g.has 'A'
          tabs := g.has 'T' || g.has 't' || g.has 'A'
          controls := g.has 'v' || g.has 'e' || g.has 't' || g.has 'A' }
      let texts := (c.sources g.operands).map fun (name, t) => match t with
        | .error r => .error (c.complaint (shownName true name ++ ": " ++ r.reason))
        | .ok t =>
          if t ≠ [] && c.isOutput name then
            .error (c.complaint (shownName true name ++ ": input file is output file"))
          else .ok t
      let isUnclosed := (g.operands.isEmpty || g.operands.contains (Text.ofString "-")) &&
        (match c.input with
        | .error .badDescriptor => true
        | _ => false)
      let last := if isUnclosed then
          [c.complaint ("closing standard input: " ++ File.Refusal.badDescriptor.reason)] else []
      match c.outputPlace with
      | .error r => c.complained ("standard output: " ++ r.reason) 1
      | .ok _ =>
        let isEndless (name : Text) : Bool := (c.files.find name).toOption.any File.Entry.isEndless
        { c.finished g.operands (m.all ⟨0, 1, false⟩ texts ++ last) with isEndless := g.operands.any isEndless }

end Utility

end LspEndpoint.Program
