import LspEndpoint.Backend.Basic

/-!
Backends without a language. The empty one has nothing to tell, the echoing one tells what it was
asked, and the scripted one has a fixed answer for some operations.
-/
namespace LspEndpoint

/-- Nothing found: null where one thing was asked for, and no items where several were. -/
def Operation.nothing : Operation → Json
  | .hover | .signatureHelp | .definition | .rename | .prepareRename => .null
  | _ => .array []

namespace Backend

def empty (_ : Store) (q : Query) : Answer := .result q.operation.nothing

/-- Answers with the operation, its params, and the text of the document if that is open. -/
def echo (store : Store) (q : Query) : Answer :=
  .result (.record
    [("operation", Json.string q.operation.name), ("params", q.arguments.toJson),
     ("text", .ofOption (fun d => .text d.text) (store.get? q.arguments.uri))])

def scripted (answers : Entries Answer) (store : Store) (q : Query) : Answer :=
  match answers.lookup (Text.ofString q.operation.name) with
  | some a => a
  | none => empty store q

/-- A backend that only reads the documents, and nothing else of what surrounds the server. -/
def reading (backend : Store → Query → Answer) (host : σ) (store : Store) (q : Query) :
    Answer × Store × σ :=
  (backend store q, store, host)

end Backend

end LspEndpoint
