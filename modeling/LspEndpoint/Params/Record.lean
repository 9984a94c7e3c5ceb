import LspEndpoint.Params.Basic

/-!
Decoded params as documents, field by field in the order of their declaration.
-/
namespace LspEndpoint

def Position.toJson (p : Position) : Json :=
  .record [("line", .int p.line), ("character", .int p.character)]

def Range.toJson (r : Range) : Json :=
  .record [("start", r.start.toJson), ("end", r.stop.toJson)]

def FormattingOptions.toJson (o : FormattingOptions) : Json :=
  .record [("tab_size", .int o.tabSize), ("insert_spaces", .bool o.insertSpaces),
    ("extra", .object o.extra)]

def DocumentParams.toJson (p : DocumentParams) : Json := .record [("uri", .text p.uri)]

def PositionParams.toJson (p : PositionParams) : Json :=
  .record [("uri", .text p.uri), ("position", p.position.toJson)]

def RangeParams.toJson (p : RangeParams) : Json :=
  .record [("uri", .text p.uri), ("range", p.range.toJson)]

def ReferenceParams.toJson (p : ReferenceParams) : Json :=
  .record [("uri", .text p.uri), ("position", p.position.toJson),
    ("include_declaration", .bool p.includeDeclaration)]

def RenameParams.toJson (p : RenameParams) : Json :=
  .record [("uri", .text p.uri), ("position", p.position.toJson), ("new_name", .text p.newName)]

def CodeActionParams.toJson (p : CodeActionParams) : Json :=
  .record [("uri", .text p.uri), ("range", p.range.toJson), ("context", .object p.context)]

def FormattingParams.toJson (p : FormattingParams) : Json :=
  .record [("uri", .text p.uri), ("options", p.options.toJson)]

def RangeFormattingParams.toJson (p : RangeFormattingParams) : Json :=
  .record [("uri", .text p.uri), ("range", p.range.toJson), ("options", p.options.toJson)]

def OnTypeFormattingParams.toJson (p : OnTypeFormattingParams) : Json :=
  .record [("uri", .text p.uri), ("position", p.position.toJson), ("ch", .text p.character),
    ("options", p.options.toJson)]

namespace Json

/-- A value that may be missing, null when it is. -/
def ofOption (f : α → Json) : Option α → Json
  | some a => f a
  | none => .null

end Json

def InitializeParams.toJson (p : InitializeParams) : Json :=
  .record [("capabilities", .object p.capabilities),
    ("client_info", .ofOption .object p.clientInfo)]

def ExecuteCommandParams.toJson (p : ExecuteCommandParams) : Json :=
  .record [("command", p.command), ("uri", .text p.uri), ("work_done_token", p.workDoneToken)]

def ContentChange.toJson (c : ContentChange) : Json :=
  .record [("text", .text c.text), ("range", .ofOption Range.toJson c.range)]

def DidOpenParams.toJson (p : DidOpenParams) : Json :=
  .record [("uri", .text p.uri), ("language_id", .text p.languageId), ("version", .int p.version),
    ("text", .text p.text)]

def DidChangeParams.toJson (p : DidChangeParams) : Json :=
  .record [("uri", .text p.uri), ("version", .ofOption .int p.version),
    ("changes", .array (p.changes.map ContentChange.toJson))]

def DidCloseParams.toJson (p : DidCloseParams) : Json := .record [("uri", .text p.uri)]

end LspEndpoint
