import LspEndpoint.Text.Printable

/-!
Text between quotes, for messages. Single quotes stand around it unless it holds a single quote and
no double one; what is not printable is escaped, so the quoted form is always one printable line.
-/
namespace LspEndpoint

namespace CodePoint

/-- The hexadecimal escape, two, four or eight digits wide. -/
def hexEscape (c : CodePoint) : Text :=
  if c.val ≤ 0xFF then "\\x" ++ Text.ofHex 2 c.val
  else if c.val ≤ 0xFFFF then "\\u" ++ Text.ofHex 4 c.val
  else "\\U" ++ Text.ofHex 8 c.val

/-- The code point as it stands between the given quotes. -/
def quotedBy (quote : CodePoint) (c : CodePoint) : Text :=
  if c = quote || c = '\\' then ['\\', c]
  else if c = '\t' then "\\t"
  else if c = '\n' then "\\n"
  else if c = '\r' then "\\r"
  else if c.isPrintable then [c]
  else c.hexEscape

end CodePoint

namespace Text

def quoteMark (t : Text) : CodePoint :=
  if t.contains (CodePoint.ofChar '\'') && !t.contains (CodePoint.ofChar '"') then '"' else '\''

def quoted (t : Text) : Text :=
  let quote := t.quoteMark
  quote :: (t.flatMap (CodePoint.quotedBy quote) ++ [quote])

/-- Quoted texts between brackets. -/
def quotedList (ts : List Text) : Text := "[" ++ joined ", " (ts.map quoted) ++ "]"

end Text

example : Text.quoted "it's" = Text.ofString "\"it's\"" := by decide +kernel

example : Text.quoted "a\n'\"" = Text.ofString "'a\\n\\'\"'" := by decide +kernel

end LspEndpoint
