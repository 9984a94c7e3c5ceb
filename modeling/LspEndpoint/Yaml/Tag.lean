import LspEndpoint.Text.Pieces
import LspEndpoint.Yaml.Cursor

/-!
Tags, and the tag that a plain scalar has by its look. What looks like nothing else is a text.
-/
namespace LspEndpoint.Yaml

inductive Tag
  | null
  | bool
  | int
  | float
  | binary
  | timestamp
  | orderedMap
  | pairs
  | set
  | text
  | sequence
  | mapping
  | merge
  | same
  | unknown
deriving DecidableEq

namespace Tag

/-- What the names of the known tags start with. -/
def authority : Text := "tag:yaml.org,2002:"

def table : List (String × Tag) :=
  [("null", null), ("bool", bool), ("int", int), ("float", float), ("binary", binary),
   ("timestamp", timestamp), ("omap", orderedMap), ("pairs", pairs), ("set", set), ("str", text),
   ("seq", sequence), ("map", mapping), ("merge", merge), ("value", same)]

def ofName (name : Text) : Tag :=
  ((table.find? fun e => name = authority ++ Text.ofString e.1).map Prod.snd).getD unknown

end Tag

def isDigitOrGap (c : CodePoint) : Bool := c.isDigit || c = '_'

/-- The text behind an optional sign. -/
def unsigned : Text → Text
  | c :: t => if c = '-' || c = '+' then t else c :: t
  | [] => []

/-- A text of one kind of character that starts with another kind. -/
def isRun (first rest : CodePoint → Bool) : Text → Bool
  | [] => false
  | c :: t => first c && t.all rest

def isNonzeroDigit (c : CodePoint) : Bool := c.isDigit && c ≠ '0'

/-- One digit, or two of which the first is at most five. -/
def isSixtieth : Text → Bool
  | [c] => c.isDigit
  | [c, d] => c.isDigit && c.digitValue < 6 && d.isDigit
  | _ => false

/-- Numbers to base sixty: two places or more, separated by colons. -/
def isSexagesimal (first : CodePoint → Bool) (t : Text) : Bool :=
  match Text.pieces ':' t with
  | p :: q :: rest => isRun first isDigitOrGap p && (q :: rest).all isSixtieth
  | _ => false

def isOneOfWords (words : List String) (t : Text) : Bool := words.any fun w => t = Text.ofString w

def looksLikeBool : Text → Bool :=
  isOneOfWords ["yes", "Yes", "YES", "no", "No", "NO", "true", "True", "TRUE", "false", "False",
    "FALSE", "on", "On", "ON", "off", "Off", "OFF"]

def looksLikeNull : Text → Bool := isOneOfWords ["", "~", "null", "Null", "NULL"]

/-- An exponent with its sign, or nothing. -/
def isExponent : Text → Bool
  | [] => true
  | e :: s :: t => (e = 'e' || e = 'E') && (s = '-' || s = '+') && isRun (·.isDigit) (·.isDigit) t
  | _ => false

/-- A number needs a point to be a float. -/
def looksLikeFloat (t : Text) : Bool :=
  let body := unsigned t
  let whole := Text.before '.' body
  match Text.after? '.' body with
  | none => false
  | some fraction =>
    let tail := fraction.dropWhile isDigitOrGap
    if whole ≠ [] then
      (isRun (·.isDigit) isDigitOrGap whole && isExponent tail) ||
        (isSexagesimal (·.isDigit) whole && tail = [])
    else
      isOneOfWords ["inf", "Inf", "INF"] fraction ||
        (body = t && (isOneOfWords ["nan", "NaN", "NAN"] fraction ||
          (fraction.head?.any (·.isDigit) && isExponent tail)))

def isHexDigitOrGap (c : CodePoint) : Bool := c.hexValue?.isSome || c = '_'

def isOctalDigitOrGap (c : CodePoint) : Bool := (c.isDigit && c.digitValue < 8) || c = '_'

def isBinaryDigitOrGap (c : CodePoint) : Bool := c = '0' || c = '1' || c = '_'

def looksLikeInt (t : Text) : Bool :=
  let body := unsigned t
  match body with
  | c :: rest =>
    if c = '0' then
      match rest with
      | [] => true
      | d :: digits =>
        rest.all isOctalDigitOrGap ||
          (d = 'b' && digits ≠ [] && digits.all isBinaryDigitOrGap) ||
          (d = 'x' && digits ≠ [] && digits.all isHexDigitOrGap)
    else isRun isNonzeroDigit isDigitOrGap body || isSexagesimal isNonzeroDigit body
  | [] => false

end LspEndpoint.Yaml
