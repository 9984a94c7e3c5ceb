import LspEndpoint.Document.Store
import LspEndpoint.Fault
import LspEndpoint.Method.Basic
import LspEndpoint.Params.Decode
import LspEndpoint.Params.Record
import LspEndpoint.Rpc.Response

/-!
What language backends are asked, and how they answer. A query carries the params of its operation,
decoded. Programs that are run for a client answer in the same way.
-/
namespace LspEndpoint

inductive Arguments
  | document (p : DocumentParams)
  | position (p : PositionParams)
  | range (p : RangeParams)
  | references (p : ReferenceParams)
  | rename (p : RenameParams)
  | codeAction (p : CodeActionParams)
  | formatting (p : FormattingParams)
  | rangeFormatting (p : RangeFormattingParams)
  | onTypeFormatting (p : OnTypeFormattingParams)
deriving DecidableEq

namespace Arguments

def uri : Arguments → Text
  | document p => p.uri
  | position p => p.uri
  | range p => p.uri
  | references p => p.uri
  | rename p => p.uri
  | codeAction p => p.uri
  | formatting p => p.uri
  | rangeFormatting p => p.uri
  | onTypeFormatting p => p.uri

def toJson : Arguments → Json
  | document p => p.toJson
  | position p => p.toJson
  | range p => p.toJson
  | references p => p.toJson
  | rename p => p.toJson
  | codeAction p => p.toJson
  | formatting p => p.toJson
  | rangeFormatting p => p.toJson
  | onTypeFormatting p => p.toJson

/-- The params of an operation, read with the decoder that belongs to it. -/
def decode (operation : Operation) (params : Json) : Params.Decoded Arguments :=
  let method : Text := operation.method
  match operation with
  | .documentSymbol | .codeLens => (Params.document method params).map document
  | .hover | .completion | .signatureHelp | .definition | .documentHighlight | .prepareRename =>
    (Params.textDocumentPosition method params).map position
  | .inlayHint => (Params.rangeParams method params).map range
  | .references => (Params.references method params).map references
  | .rename => (Params.rename method params).map rename
  | .codeAction => (Params.codeAction method params).map codeAction
  | .formatting => (Params.formatting method params).map formatting
  | .rangeFormatting => (Params.rangeFormatting method params).map rangeFormatting
  | .onTypeFormatting => (Params.onTypeFormatting method params).map onTypeFormatting

end Arguments

structure Query where
  operation : Operation
  arguments : Arguments
deriving DecidableEq

/-- A result, a refusal that the client is told of, or a fault that it is not. -/
inductive Answer
  | result (value : Json)
  | refused (e : Rpc.Error)
  | failed (f : Fault)
deriving DecidableEq

namespace Answer

def map (f : Json → Json) : Answer → Answer
  | result v => .result (f v)
  | refused e => .refused e
  | failed f => .failed f

/-- The answer of a program that printed a text, or could not be run. -/
def ofPrinted : Except Fault Text → Answer
  | .ok output => .result (.text output)
  | .error f => .failed f

end Answer

end LspEndpoint
