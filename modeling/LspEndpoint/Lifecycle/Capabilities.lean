import LspEndpoint.Json.Value

/-!
What the server announces. The document is the same for every client, except that a client which can
prepare a rename is told that the server can too.
-/
namespace LspEndpoint

/-- Whether the client declared `textDocument.rename.prepareSupport`, as literally true. -/
def supportsPrepareRename (client : Json) : Bool :=
  ((client.get "textDocument").get "rename").get "prepareSupport" = .bool true

def renameProvider (client : Json) : Json :=
  if supportsPrepareRename client then .record [("prepareProvider", .bool true)] else .bool true

def strings (ss : List String) : Json := .array (ss.map Json.string)

def serverCapabilities (client : Json) : Json :=
  .record
    [("textDocumentSync", .record
        [("openClose", .bool true), ("change", .int 2), ("willSave", .bool false),
         ("willSaveWaitUntil", .bool false)]),
     ("hoverProvider", .bool true),
     ("codeActionProvider", .bool true),
     ("definitionProvider", .bool true),
     ("referencesProvider", .bool true),
     ("completionProvider", .record [("triggerCharacters", strings ["("])]),
     ("signatureHelpProvider", .record [("triggerCharacters", strings [" ", ")", "]"])]),
     ("inlayHintProvider", .bool true),
     ("renameProvider", renameProvider client),
     ("documentHighlightProvider", .bool true),
     ("documentSymbolProvider", .bool true),
     ("documentFormattingProvider", .bool true),
     ("documentRangeFormattingProvider", .bool true),
     ("codeLensProvider", .record []),
     ("executeCommandProvider", .record [("commands", strings ["racket"])]),
     ("documentOnTypeFormattingProvider", .record
        [("firstTriggerCharacter", Json.string ")"),
         ("moreTriggerCharacter", strings ["\n", "]"])])]

end LspEndpoint
