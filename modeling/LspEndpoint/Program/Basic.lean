import LspEndpoint.File.System
import LspEndpoint.Text.Entries

/-!
What running a program means: what it is given, and what it leaves. Texts that go in and come out are
octets, held as code points below 256.
-/
namespace LspEndpoint.Program

/-- What a program finds when it starts: the name that it was called by and its arguments, the variables
that it inherits, the files, its input or why it has none, and the files that its input and its output are
if they are such; it may have no output. -/
structure Call where
  name : Text
  args : List Text
  settings : Entries Text
  files : File.System
  input : Except File.Refusal Text
  inputPlace : Option File.Place
  outputPlace : Except File.Refusal (Option File.Place)

/-- A part of what a program prints, as output or as a complaint. -/
structure Chunk where
  isError : Bool
  text : Text

/-- What a program printed, its status, the milliseconds it took, whether it never ends, how much of its
input it took, and the files that it leaves. -/
structure Ran where
  chunks : List Chunk
  status : Nat
  elapsed : Nat
  isEndless : Bool
  taken : Nat
  files : File.System

abbrev Utility := Call → Ran

namespace Ran

/-- All that was printed, in order. -/
def text (r : Ran) : Text := r.chunks.flatMap Chunk.text

end Ran

namespace Call

def quiet (c : Call) (status : Nat) : Ran := ⟨[], status, 0, false, 0, c.files⟩

def printed (c : Call) (t : Text) : Ran := { c.quiet 0 with chunks := [⟨false, t⟩] }

/-- Complains under the name that the program was called by. -/
def complaint (c : Call) (message : Text) : Chunk := ⟨true, c.name ++ ": " ++ message ++ "\n"⟩

def complained (c : Call) (message : Text) (status : Nat) : Ran :=
  { c.quiet status with chunks := [c.complaint message] }

/-- The text that a name stands for: a file's, or the input's. -/
def read (c : Call) (name : Text) : Except File.Refusal Text :=
  if name = "-" || name = "/dev/stdin" then c.input else c.files.read name

/-- The texts that names stand for; without names, the input. The input can be read only once. -/
def sources (c : Call) (names : List Text) : List (Text × Except File.Refusal Text) :=
  go false (if names.isEmpty then [Text.ofString "-"] else names)
where
  go (isRead : Bool) : List Text → List (Text × Except File.Refusal Text)
    | [] => []
    | name :: rest =>
      let isInput := name = "-" || name = "/dev/stdin"
      let text := if isInput && isRead then c.input.map fun _ => [] else c.read name
      (name, text) :: go (isRead || isInput) rest

/-- Whether a name stands for the file that the output goes to. -/
def isOutput (c : Call) (name : Text) : Bool :=
  let place := if name = "-" then c.inputPlace else (c.files.locate name).toOption
  place.isSome && c.outputPlace.toOption = some place

/-- The end of a program that read these names: it fails if it complained, and has taken all of its input
if that was among them. -/
def finished (c : Call) (names : List Text) (chunks : List Chunk) : Ran :=
  let usesInput := names.isEmpty || names.any fun (name : Text) => name = "-" || name = "/dev/stdin"
  let taken := if usesInput then (c.input.toOption.getD []).length else 0
  { c.quiet (if chunks.any Chunk.isError then 1 else 0) with chunks, taken }

def setting? (c : Call) (name : String) : Option Text := c.settings.lookup (Text.ofString name)

/-- Whether the program is told to keep to the standard where it usually does not. -/
def isStrict (c : Call) : Bool := (c.setting? "POSIXLY_CORRECT").isSome

end Call

end LspEndpoint.Program
