import LspEndpoint.Text.CodePoint

/-!
Octets in complaints. A value is quoted always; the name of a file only where a shell would not read it
as one plain word, and then so that a shell reads it back.
-/
namespace LspEndpoint.Program

/-- An octet behind a backslash; none for a printable one. -/
def octetEscape? (c : CodePoint) : Option Text :=
  let letter (l : Char) : Option Text := some ['\\', l]
  if c.val = 7 then letter 'a'
  else if c.val = 8 then letter 'b'
  else if c.val = 9 then letter 't'
  else if c.val = 10 then letter 'n'
  else if c.val = 11 then letter 'v'
  else if c.val = 12 then letter 'f'
  else if c.val = 13 then letter 'r'
  else if 0x20 ≤ c.val && c.val < 0x7F then none
  else
    let digit (n : Nat) : CodePoint := CodePoint.ofNat (0x30 + n % 8)
    some ['\\', digit (c.val / 64), digit (c.val / 8), digit c.val]

/-- An octet of a value that stands between quotes. -/
def quotedOctet (c : CodePoint) : Text :=
  if c = '\'' || c = '\\' then ['\\', c] else (octetEscape? c).getD [c]

/-- A value between quotes, with what could not be told apart behind a backslash. -/
def quotedValue (t : Text) : Text := "'" ++ t.flatMap quotedOctet ++ "'"

/-- What a shell does not read as a part of a plain word. In front of what follows a complaint a colon
would be lost. -/
def isShellSpecial (beforeColon : Bool) (c : CodePoint) : Bool :=
  (octetEscape? c).isSome || (Text.ofString " !\"$&'()*;<=>?[\\^`|").contains c ||
    (beforeColon && c = ':')

/-- A file's name between single quotes; runs of octets that are not printable have quotes of their own
kind. The flag tells whether such a run is open. -/
def quotedRuns : (isOpen : Bool) → Text → Text
  | _, [] => "'"
  | isOpen, c :: t =>
    match octetEscape? c with
    | some e => (if isOpen then [] else Text.ofString "'$'") ++ e ++ quotedRuns true t
    | none =>
      let shown : Text := if c = '\'' then "'\\''" else [c]
      (if isOpen then Text.ofString "''" else []) ++ shown ++ quotedRuns false t

/-- The name of a file as a shell reads it back, quoted in any case. -/
def quotedName (t : Text) : Text :=
  let isDoubled := t.contains (CodePoint.ofChar '\'') &&
    !t.any fun c => (octetEscape? c).isSome || (Text.ofString "\"$\\`!").contains c
  if isDoubled then "\"" ++ t ++ "\"" else "'" ++ quotedRuns false t

/-- The name of a file as a complaint shows it. -/
def shownName (beforeColon : Bool) (t : Text) : Text :=
  let isPlain := t ≠ [] && !t.any (isShellSpecial beforeColon) &&
    !(t.head? = some (CodePoint.ofChar '#') || t.head? = some (CodePoint.ofChar '~')) &&
    t ≠ "\x7b" && t ≠ "\x7d"
  if isPlain then t else quotedName t

end LspEndpoint.Program
