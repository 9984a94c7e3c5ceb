import LspEndpoint.Json.Value
import LspEndpoint.Number.Layout

/-!
Writing documents, with a space after each comma and colon. The plain form leaves characters beyond
ASCII as they are; the ASCII form escapes them, supplementary ones as surrogate pairs.
-/
namespace LspEndpoint

namespace Json

def shortEscape (c : CodePoint) : Option Text :=
  if c = '"' then some "\\\""
  else if c = '\\' then some "\\\\"
  else if c = '\n' then some "\\n"
  else if c = '\r' then some "\\r"
  else if c = '\t' then some "\\t"
  else if c.val = 0x0C then some "\\f"
  else if c.val = 0x08 then some "\\b"
  else none

def unicodeEscape (c : CodePoint) : Text := "\\u" ++ Text.ofHex 4 c.val

/-- A character inside a string. -/
def escaped (ascii : Bool) (c : CodePoint) : Text :=
  match shortEscape c with
  | some t => t
  | none =>
    if c.val < 0x20 then unicodeEscape c
    else if !ascii || c.val < 0x7F then [c]
    else if c.val < 0x10000 then unicodeEscape c
    else unicodeEscape c.toPair.1 ++ unicodeEscape c.toPair.2

def renderText (ascii : Bool) (t : Text) : Text :=
  CodePoint.ofChar '"' :: (t.flatMap (escaped ascii) ++ [CodePoint.ofChar '"'])

/-- The spellings that the reader accepts. -/
def floatWords : FloatWords := ⟨"NaN", "Infinity"⟩

mutual

def render (ascii : Bool) : Json → Text
  | .null => "null"
  | .bool true => "true"
  | .bool false => "false"
  | .int n => Text.ofInt n
  | .float x => x.text floatWords
  | .text t => renderText ascii t
  | .array items => "[" ++ renderItems ascii items ++ "]"
  | .object members => "\x7b" ++ renderMembers ascii members ++ "\x7d"

/-- Items with commas between them. -/
def renderItems (ascii : Bool) : List Json → Text
  | [] => []
  | [v] => render ascii v
  | v :: w :: rest => render ascii v ++ ", " ++ renderItems ascii (w :: rest)

/-- Members with commas between them. -/
def renderMembers (ascii : Bool) : List (Text × Json) → Text
  | [] => []
  | [(k, v)] => renderText ascii k ++ ": " ++ render ascii v
  | (k, v) :: m :: rest =>
    renderText ascii k ++ ": " ++ render ascii v ++ ", " ++ renderMembers ascii (m :: rest)

end

mutual

/-- The members of every object in the order of their keys. -/
def sorted : Json → Json
  | .array items => .array (sortedItems items)
  | .object members => .object ((sortedMembers members).mergeSort fun a b => Text.le a.1 b.1)
  | v => v

def sortedItems : List Json → List Json
  | [] => []
  | v :: rest => sorted v :: sortedItems rest

def sortedMembers : List (Text × Json) → List (Text × Json)
  | [] => []
  | (k, v) :: rest => (k, sorted v) :: sortedMembers rest

end

/-- The form that messages show a received value in. -/
def describe (v : Json) : Text := v.sorted.render true

end Json

end LspEndpoint
