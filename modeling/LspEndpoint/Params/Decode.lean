import LspEndpoint.Params.Basic
import LspEndpoint.Params.Error

/-!
Reading params off a document. A decoder accepts exactly the values of its schema and takes each field
from the place that the schema names; of two faults the one that is looked at first is reported.
-/
namespace LspEndpoint.Params

abbrev Decoded (α : Type) := Except Error α

/-- A whole number that is not negative; booleans and doubles are none. -/
def natural? : Json → Option Nat
  | .int (.ofNat n) => some n
  | _ => none

def int? : Json → Option Int
  | .int n => some n
  | _ => none

def text? : Json → Option Text
  | .text t => some t
  | _ => none

def bool? : Json → Option Bool
  | .bool b => some b
  | _ => none

def members? : Json → Option Json.Members
  | .object ms => some ms
  | _ => none

def items? : Json → Option (List Json)
  | .array vs => some vs
  | _ => none

/-- The value found, or the part that should have held it. -/
def require (part : Part) (got : Json) : Option α → Decoded α
  | some a => .ok a
  | none => .error (.invalid part got)

def requireObject (method : Text) : Json → Decoded Unit
  | .object _ => .ok ()
  | v => .error (.notObject method v)

def position? (v : Json) : Option Position :=
  match natural? (v.get "line"), natural? (v.get "character") with
  | some line, some character => some ⟨line, character⟩
  | _, _ => none

def position (v : Json) : Decoded Position := require .position v (position? v)

def range : Json → Decoded Range
  | .object ms => do
    let start ← position ((Json.object ms).get "start")
    let stop ← position ((Json.object ms).get "end")
    return ⟨start, stop⟩
  | v => .error (.invalid .range v)

def textDocumentUri (v : Json) : Decoded Text :=
  let document := v.get "textDocument"
  require .textDocument document (text? (document.get "uri"))

def formattingOptions? (v : Json) : Option FormattingOptions :=
  match members? v, int? (v.get "tabSize"), bool? (v.get "insertSpaces") with
  | some ms, some tabSize, some insertSpaces => some
      { tabSize, insertSpaces,
        extra := ms.filter fun m => m.1 ≠ "tabSize" ∧ m.1 ≠ "insertSpaces" }
  | _, _, _ => none

def formattingOptions (v : Json) : Decoded FormattingOptions :=
  require .formattingOptions v (formattingOptions? v)

def document (method : Text) (v : Json) : Decoded DocumentParams := do
  requireObject method v
  return ⟨← textDocumentUri v⟩

def textDocumentPosition (method : Text) (v : Json) : Decoded PositionParams := do
  requireObject method v
  let uri ← textDocumentUri v
  let position ← position (v.get "position")
  return ⟨uri, position⟩

def rangeParams (method : Text) (v : Json) : Decoded RangeParams := do
  requireObject method v
  let uri ← textDocumentUri v
  let range ← range (v.get "range")
  return ⟨uri, range⟩

def references (method : Text) (v : Json) : Decoded ReferenceParams := do
  requireObject method v
  let context := v.get "context"
  let includeDeclaration ←
    require .referenceContext context (bool? (context.get "includeDeclaration"))
  let uri ← textDocumentUri v
  let position ← position (v.get "position")
  return ⟨uri, position, includeDeclaration⟩

def rename (method : Text) (v : Json) : Decoded RenameParams := do
  requireObject method v
  let newName ← require .newName (v.get "newName") (text? (v.get "newName"))
  let uri ← textDocumentUri v
  let position ← position (v.get "position")
  return ⟨uri, position, newName⟩

/-- The context of a code action holds a list of diagnostics; all of it is kept. -/
def codeActionContext? (v : Json) : Option Json.Members :=
  match members? v, items? (v.get "diagnostics") with
  | some ms, some _ => some ms
  | _, _ => none

def codeAction (method : Text) (v : Json) : Decoded CodeActionParams := do
  requireObject method v
  let context ← require .codeActionContext (v.get "context") (codeActionContext? (v.get "context"))
  let uri ← textDocumentUri v
  let range ← range (v.get "range")
  return ⟨uri, range, context⟩

def formatting (method : Text) (v : Json) : Decoded FormattingParams := do
  requireObject method v
  let uri ← textDocumentUri v
  let options ← formattingOptions (v.get "options")
  return ⟨uri, options⟩

def rangeFormatting (method : Text) (v : Json) : Decoded RangeFormattingParams := do
  requireObject method v
  let uri ← textDocumentUri v
  let range ← range (v.get "range")
  let options ← formattingOptions (v.get "options")
  return ⟨uri, range, options⟩

def onTypeFormatting (method : Text) (v : Json) : Decoded OnTypeFormattingParams := do
  requireObject method v
  let character ← require .character (v.get "ch") (text? (v.get "ch"))
  let uri ← textDocumentUri v
  let position ← position (v.get "position")
  let options ← formattingOptions (v.get "options")
  return ⟨uri, position, character, options⟩

/-- A process id is a number or null. -/
def isProcessId : Json → Bool
  | .null | .int _ | .float _ => true
  | _ => false

/-- The process id must be present, though its value is not used. -/
def processId (v : Json) : Decoded Json :=
  require .processId (v.get "processId") ((v.get? "processId").filter isProcessId)

def initialization (v : Json) : Decoded InitializeParams := do
  requireObject "initialize" v
  let _ ← processId v
  let capabilities ← require .capabilities (v.get "capabilities") (members? (v.get "capabilities"))
  return ⟨capabilities, members? (v.get "clientInfo")⟩

def onlyText? : Json → Option Text
  | .array [.text t] => some t
  | _ => none

/-- The command and the token only have to be present; the one argument is a text. -/
def executeCommand? (v : Json) : Option ExecuteCommandParams :=
  match v.get? "command", v.get? "workDoneToken", onlyText? (v.get "arguments") with
  | some command, some workDoneToken, some uri => some ⟨command, uri, workDoneToken⟩
  | _, _, _ => none

def executeCommand (v : Json) : Decoded ExecuteCommandParams :=
  require .executeCommand v (executeCommand? v)

/-- A language id that is no text counts as empty, a version that is no integer as zero. -/
def openedDocument? (v : Json) : Option DidOpenParams :=
  match text? (v.get "uri"), text? (v.get "text") with
  | some uri, some text => some
      { uri, text
        languageId := (text? (v.get "languageId")).getD []
        version := (int? (v.get "version")).getD 0 }
  | _, _ => none

def didOpen (v : Json) : Decoded DidOpenParams := do
  requireObject "textDocument/didOpen" v
  require .textDocument (v.get "textDocument") (openedDocument? (v.get "textDocument"))

/-- A change whose range is present, even as null, must have a well-formed one. -/
def contentChange (v : Json) : Decoded ContentChange := do
  let text ← require .contentChange v (text? (v.get "text"))
  match v.get? "range" with
  | none => return ⟨text, none⟩
  | some r => return ⟨text, some (← range r)⟩

def contentChanges : List Json → Decoded (List ContentChange)
  | [] => .ok []
  | v :: rest => do
    let change ← contentChange v
    let changes ← contentChanges rest
    return change :: changes

def didChange (v : Json) : Decoded DidChangeParams := do
  requireObject "textDocument/didChange" v
  let uri ← textDocumentUri v
  let raw ← require .contentChanges (v.get "contentChanges") (items? (v.get "contentChanges"))
  let changes ← contentChanges raw
  return ⟨uri, int? ((v.get "textDocument").get "version"), changes⟩

def didClose (v : Json) : Decoded DidCloseParams := do
  requireObject "textDocument/didClose" v
  return ⟨← textDocumentUri v⟩

end LspEndpoint.Params
