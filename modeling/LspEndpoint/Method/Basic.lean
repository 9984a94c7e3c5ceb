import LspEndpoint.Text.CodePoint

/-!
The methods that are served. Requests and notifications have no method name in common, and each
operation on text documents has its own request method.
-/
namespace LspEndpoint

/-- The element that a name stands for. -/
def findNamed? (nameOf : α → String) (t : Text) (all : List α) : Option α :=
  all.find? fun a => t == Text.ofString (nameOf a)

theorem findNamed?_eq_some {nameOf : α → String} {all : List α} {a : α} (ha : a ∈ all)
    (h : (all.map nameOf).Nodup) : findNamed? nameOf (nameOf a) all = some a := by
  induction all with
  | nil => simp at ha
  | cons b rest ih =>
    simp only [List.map_cons, List.nodup_cons] at h
    rcases List.mem_cons.1 ha with rfl | hr
    · simp [findNamed?]
    · have hne : nameOf a ≠ nameOf b := fun e => h.1 (e ▸ List.mem_map_of_mem hr)
      have hb : (Text.ofString (nameOf a) == Text.ofString (nameOf b)) = false :=
        beq_eq_false_iff_ne.2 fun e => hne (Text.ofString_injective e)
      simpa only [findNamed?, List.find?_cons, hb] using ih hr h.2

theorem findNamed?_eq_none {nameOf : α → String} {all : List α} {t : String}
    (h : t ∉ all.map nameOf) : findNamed? nameOf t all = none := by
  simp only [findNamed?, List.find?_eq_none, beq_iff_eq]
  exact fun a ha e => h (Text.ofString_injective e ▸ List.mem_map_of_mem ha)

theorem method_of_findNamed? {nameOf : α → String} {all : List α} {t : Text} {a : α}
    (h : findNamed? nameOf t all = some a) : t = nameOf a := by
  simpa using List.find?_some h

/-- What a language backend can be asked about a text document. -/
inductive Operation
  | hover
  | codeAction
  | completion
  | signatureHelp
  | definition
  | documentHighlight
  | references
  | documentSymbol
  | inlayHint
  | rename
  | prepareRename
  | formatting
  | rangeFormatting
  | onTypeFormatting
  | codeLens
deriving DecidableEq

namespace Operation

def all : List Operation :=
  [hover, codeAction, completion, signatureHelp, definition, documentHighlight, references,
   documentSymbol, inlayHint, rename, prepareRename, formatting, rangeFormatting, onTypeFormatting,
   codeLens]

theorem mem_all (op : Operation) : op ∈ all := by cases op <;> decide

def method : Operation → String
  | hover => "textDocument/hover"
  | codeAction => "textDocument/codeAction"
  | completion => "textDocument/completion"
  | signatureHelp => "textDocument/signatureHelp"
  | definition => "textDocument/definition"
  | documentHighlight => "textDocument/documentHighlight"
  | references => "textDocument/references"
  | documentSymbol => "textDocument/documentSymbol"
  | inlayHint => "textDocument/inlayHint"
  | rename => "textDocument/rename"
  | prepareRename => "textDocument/prepareRename"
  | formatting => "textDocument/formatting"
  | rangeFormatting => "textDocument/rangeFormatting"
  | onTypeFormatting => "textDocument/onTypeFormatting"
  | codeLens => "textDocument/codeLens"

/-- The name that a backend knows the operation by. -/
def name : Operation → String
  | hover => "hover"
  | codeAction => "code_action"
  | completion => "completion"
  | signatureHelp => "signature_help"
  | definition => "definition"
  | documentHighlight => "document_highlight"
  | references => "references"
  | documentSymbol => "document_symbol"
  | inlayHint => "inlay_hint"
  | rename => "rename"
  | prepareRename => "prepare_rename"
  | formatting => "formatting"
  | rangeFormatting => "range_formatting"
  | onTypeFormatting => "on_type_formatting"
  | codeLens => "code_lens"

end Operation

inductive RequestMethod
  | initialization
  | shutdown
  | executeCommand
  | document (operation : Operation)
deriving DecidableEq

namespace RequestMethod

def all : List RequestMethod :=
  [initialization, shutdown, executeCommand] ++ Operation.all.map document

theorem mem_all (m : RequestMethod) : m ∈ all := by
  cases m with
  | document op => simp [all, Operation.mem_all]
  | _ => simp [all]

def method : RequestMethod → String
  | initialization => "initialize"
  | shutdown => "shutdown"
  | executeCommand => "workspace/executeCommand"
  | document op => op.method

def ofText? (t : Text) : Option RequestMethod := findNamed? method t all

end RequestMethod

inductive NotificationMethod
  | exit
  | didOpen
  | didClose
  | didChange
deriving DecidableEq

namespace NotificationMethod

def all : List NotificationMethod := [exit, didOpen, didClose, didChange]

def method : NotificationMethod → String
  | exit => "exit"
  | didOpen => "textDocument/didOpen"
  | didClose => "textDocument/didClose"
  | didChange => "textDocument/didChange"

def ofText? (t : Text) : Option NotificationMethod := findNamed? method t all

theorem mem_all (m : NotificationMethod) : m ∈ all := by cases m <;> decide

end NotificationMethod

/-- No two methods have the same name. -/
theorem methods_nodup :
    (RequestMethod.all.map RequestMethod.method ++
      NotificationMethod.all.map NotificationMethod.method).Nodup := by
  decide +kernel

theorem RequestMethod.ofText?_method (m : RequestMethod) : ofText? m.method = some m :=
  findNamed?_eq_some m.mem_all (List.nodup_append.1 methods_nodup).1

theorem NotificationMethod.ofText?_method (m : NotificationMethod) : ofText? m.method = some m :=
  findNamed?_eq_some m.mem_all (List.nodup_append.1 methods_nodup).2.1

theorem NotificationMethod.ofText?_request (m : RequestMethod) : ofText? m.method = none :=
  findNamed?_eq_none fun h =>
    (List.nodup_append.1 methods_nodup).2.2 _ (List.mem_map_of_mem m.mem_all) _ h rfl

end LspEndpoint
