import LspEndpoint.Datum.Basic
import LspEndpoint.Text.Quoted

/-!
Values of settings as messages show them. Texts inside a value are quoted; a text on its own is
shown as it is.
-/
namespace LspEndpoint

namespace Bytes

/-- A byte that stands between the given quotes. -/
def quotedBy (quote : CodePoint) (b : UInt8) : Text :=
  let c := CodePoint.ofNat b.toNat
  if b < 0x7F then CodePoint.quotedBy quote c else c.hexEscape

def quoted (bytes : Bytes) : Text :=
  let quote := Text.quoteMark (bytes.map fun b => CodePoint.ofNat b.toNat)
  "b" ++ quote :: (bytes.flatMap (quotedBy quote) ++ [quote])

end Bytes

namespace Datum

mutual

/-- The value as it is shown inside another one. -/
def quoted : Datum → Text
  | .null => "None"
  | .bool true => "True"
  | .bool false => "False"
  | .int n => Text.ofInt n
  | .float x => x.text floatWords
  | .text t => t.quoted
  | .bytes b => b.quoted
  | .date d => d.constructed
  | .moment m => m.constructed
  | .list items => "[" ++ Text.joined ", " (quotedItems items) ++ "]"
  | .tuple [v] => "(" ++ quoted v ++ ",)"
  | .tuple items => "(" ++ Text.joined ", " (quotedItems items) ++ ")"
  | .map entries => "\x7b" ++ Text.joined ", " (quotedEntries entries) ++ "\x7d"
  | .set [] => "set()"
  | .set members => "\x7b" ++ Text.joined ", " (quotedItems members) ++ "\x7d"
  | .cycle true => "\x7b...\x7d"
  | .cycle false => "[...]"

def quotedItems : List Datum → List Text
  | [] => []
  | v :: rest => quoted v :: quotedItems rest

def quotedEntries : List (Datum × Datum) → List Text
  | [] => []
  | (k, v) :: rest => (quoted k ++ ": " ++ quoted v) :: quotedEntries rest

end

mutual

/-- Whether the value can be shown: it holds no integer that is too long. -/
def isShown : Datum → Bool
  | .int n => Integer.isShown n
  | .list items | .tuple items | .set items => areShown items
  | .map entries => entriesAreShown entries
  | _ => true

def areShown : List Datum → Bool
  | [] => true
  | v :: rest => isShown v && areShown rest

def entriesAreShown : List (Datum × Datum) → Bool
  | [] => true
  | (k, v) :: rest => isShown k && isShown v && entriesAreShown rest

end

/-- The value as it is shown on its own. -/
def display : Datum → Text
  | .text t => t
  | .date d => d.text
  | .moment m => m.text
  | v => v.quoted

example : quoted (.list [.int 1, .text "it's", .map [(.text "k", .null)]]) =
    Text.ofString "[1, \"it's\", \x7b'k': None\x7d]" := by decide +kernel

end Datum

/-- A document as a message shows it on its own. -/
def Json.display (v : Json) : Text := (Datum.ofJson v).display

end LspEndpoint
