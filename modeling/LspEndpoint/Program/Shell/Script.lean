import LspEndpoint.Text.CodePoint

/-!
Scripts of a shell. A word is a list of parts that are put together when the word is used: octets as they
stand or behind a quotation, marks where a quotation starts or ends, and what is replaced by a value.
-/
namespace LspEndpoint.Program.Shell

/-- How the value of a parameter is used. -/
inductive Use
  | value
  | orElse
  | orAssign
  | instead
  | orFail
  | length
  | trimmed (atEnd longest : Bool)
  | malformed
deriving DecidableEq

/-- Where a redirection leads. -/
inductive Direction
  | input
  | output
  | clobber
  | append
  | both
  | copyInput
  | copyOutput
deriving DecidableEq

mutual

inductive Part
  | octet (c : CodePoint) (isEscaped : Bool)
  | quote
  | parameter (name : Text) (use : Use) (countsEmpty : Bool) (word : List Part)
  | arithmetic (parts : List Part)
  | command (c : Command)

/-- A redirection of a descriptor: to a file or another descriptor that a word names, or from a text that
stands in the script. -/
inductive Redirect
  | path (descriptor : Nat) (direction : Direction) (word : List Part)
  | here (descriptor : Nat) (number : Nat)

/-- A command. Its line is counted in the script that it was read from. -/
inductive Command
  | nothing
  | simple (line : Nat) (assignments words : List (List Part)) (redirects : List Redirect)
  | redirected (line : Nat) (c : Command) (redirects : List Redirect)
  | subshell (line : Nat) (c : Command) (redirects : List Redirect)
  | background (c : Command)
  | pipeline (isBackground : Bool) (cs : List Command)
  | both (a b : Command)
  | either (a b : Command)
  | sequence (a b : Command)
  | negated (c : Command)
  | branch (test yes no : Command)
  | loop (isUntil : Bool) (test body : Command)
  | each (line : Nat) (name : Text) (words : List (List Part)) (body : Command)
  | choice (line : Nat) (word : List Part) (cases : List (List (List Part) × Command))
  | definition (line : Nat) (name : Text) (body : Command)

end

/-- The descriptor that a redirection changes. -/
def Redirect.descriptor : Redirect → Nat
  | path d _ _ | here d _ => d

instance : Inhabited Part := ⟨.quote⟩

instance : Inhabited Command := ⟨.nothing⟩

abbrev Word := List Part

inductive Token
  | endOfFile
  | newline
  | semicolon
  | ampersand
  | and
  | or
  | bar
  | open
  | close
  | endCase
  | redirect
  | word
  | keyword (k : String)
deriving DecidableEq

namespace Token

/-- The words that mean something where a command may start. -/
def keywords : List String :=
  ["!", "case", "do", "done", "elif", "else", "esac", "fi", "for", "if", "in", "then", "until", "while",
    "\x7b", "\x7d"]

/-- How a complaint names a token. -/
def name : Token → Text
  | endOfFile => "end of file"
  | newline => "newline"
  | semicolon => "\";\""
  | ampersand => "\"&\""
  | and => "\"&&\""
  | or => "\"||\""
  | bar => "\"|\""
  | .open => "\"(\""
  | close => "\")\""
  | endCase => "\";;\""
  | redirect => "redirection"
  | word => "word"
  | keyword k => "\"" ++ Text.ofString k ++ "\""

/-- Whether a list of commands ends in front of a token. -/
def endsList : Token → Bool
  | endOfFile | close | endCase => true
  | keyword k => ["do", "done", "elif", "else", "esac", "fi", "then", "\x7d"].contains k
  | _ => false

end Token

end LspEndpoint.Program.Shell
