import LspEndpoint.Program.Shell.Script
import LspEndpoint.Text.Entries

/-!
A script that is being read: what is left of it, the last token with its word, and the texts that are
still to come behind redirections. A line that ends with a backslash goes on in the next one.
-/
namespace LspEndpoint.Program.Shell

/-- What is wrong with a script, and the line where that shows. -/
structure Complaint where
  line : Nat
  message : Text

/-- What to look for in the next token: line ends to pass over, keywords and names of aliases to replace,
and whether only quotations count. -/
structure Watch where
  newlines : Bool
  keywords : Bool
  aliases : Bool
  marks : Bool

namespace Watch

def nothing : Watch := ⟨false, false, false, false⟩

def commands : Watch := ⟨false, true, true, false⟩

def lines : Watch := ⟨true, true, true, false⟩

def union (a b : Watch) : Watch :=
  ⟨a.newlines || b.newlines, a.keywords || b.keywords, a.aliases || b.aliases, a.marks || b.marks⟩

end Watch

/-- What a redirection sign says before the word behind it is known. -/
inductive Sign
  | path (descriptor : Nat) (direction : Direction)
  | here (descriptor : Nat) (dropsTabs : Bool)

/-- A text that ends at a line with a mark. -/
structure Awaited where
  number : Nat
  mark : Text
  dropsTabs : Bool
  isLiteral : Bool

structure Source where
  rest : Text
  line : Nat
  token : Token
  isPushed : Bool
  word : Word
  isQuoted : Bool
  sign : Sign
  watch : Watch
  awaited : List Awaited
  texts : List (Nat × Word)
  nextText : Nat
  aliases : Entries Text
  aliasesInUse : List (Text × Nat)
  isDone : Bool

namespace Source

def start (script : Text) (line nextText : Nat) (aliases : Entries Text) : Source where
  rest := script
  line := line
  token := .endOfFile
  isPushed := false
  word := []
  isQuoted := false
  sign := .path 0 .input
  watch := .nothing
  awaited := []
  texts := []
  nextText := nextText
  aliases := aliases
  aliasesInUse := []
  isDone := false

end Source

abbrev Parse := StateT Source (Except Complaint)

namespace Parse

def fail {α : Type} (message : Text) : Parse α := do
  throw ⟨(← get).line, "Syntax error: " ++ message⟩

def unexpected {α : Type} (expected : Option Token) : Parse α := do
  let got := (← get).token.name ++ " unexpected"
  match expected with
  | none => fail got
  | some t => fail (got ++ " (expecting " ++ t.name ++ ")")

/-- Repeats a step until it comes to a result. -/
def repeated {α β : Type} (step : α → Parse (α ⊕ β)) : (bound : Nat) → α → Parse β
  | 0, _ => fail "out of space"
  | bound + 1, a => do
    match ← step a with
    | .inl a => repeated step bound a
    | .inr b => return b

/-- Steps enough to read all that is left. -/
def bound : Parse Nat := do return 2 * (← get).rest.length + 100

def linesPassed (n : Nat) : Parse Unit := modify fun s => { s with line := s.line + n }

def next : Parse (Option CodePoint) := do
  let s ← get
  match s.rest with
  | [] => return none
  | c :: rest => set { s with rest }; return some c

/-- Drops ends of lines behind a backslash, and counts them. -/
def unbroken : Text → Text × Nat
  | c :: d :: t =>
    if c = '\\' && d.val = 0x0A then let r := unbroken t; (r.1, r.2 + 1) else (c :: d :: t, 0)
  | t => (t, 0)

/-- The next octet of a script whose lines may go on. -/
def nextJoined : Parse (Option CodePoint) := do
  modify fun s => let r := unbroken s.rest; { s with rest := r.1, line := s.line + r.2 }
  next

def back (c : Option CodePoint) : Parse Unit := modify fun s => { s with rest := c.toList ++ s.rest }

def watching (w : Watch) : Parse Unit := modify fun s => { s with watch := w }

def pushBack : Parse Unit := modify fun s => { s with isPushed := true }

def isAt (t : Token) : Parse Bool := do return (← get).token = t

end Parse

end LspEndpoint.Program.Shell
