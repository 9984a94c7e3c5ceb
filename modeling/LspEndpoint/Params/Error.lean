import LspEndpoint.Json.Printer

/-!
Why params are rejected. Every message shows the offending value as a document with sorted keys.
-/
namespace LspEndpoint.Params

/-- The part of the params that has the wrong shape. -/
inductive Part
  | position
  | range
  | textDocument
  | formattingOptions
  | referenceContext
  | codeActionContext
  | newName
  | character
  | processId
  | capabilities
  | executeCommand
  | contentChanges
  | contentChange
deriving DecidableEq

def Part.label : Part → String
  | .position => "position"
  | .range => "range"
  | .textDocument => "textDocument"
  | .formattingOptions => "formatting options"
  | .referenceContext => "reference context"
  | .codeActionContext => "code action context"
  | .newName => "newName"
  | .character => "ch"
  | .processId => "processId"
  | .capabilities => "capabilities"
  | .executeCommand => "params for workspace/executeCommand"
  | .contentChanges => "contentChanges"
  | .contentChange => "content change"

inductive Error
  | notObject (method : Text) (got : Json)
  | invalid (part : Part) (got : Json)
  | notFileUri (uri : Text)
deriving DecidableEq

def Error.message : Error → Text
  | .notObject method got =>
    "invalid params for " ++ method ++ ": expected an object, got " ++ got.describe
  | .invalid part got => "invalid " ++ Text.ofString part.label ++ ": " ++ got.describe
  | .notFileUri uri => "expected a file URI, got " ++ (Json.text uri).describe

end LspEndpoint.Params
