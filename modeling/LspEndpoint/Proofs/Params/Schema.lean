import LspEndpoint.Params.Decode
import LspEndpoint.Proofs.Result
import Mathlib.Data.List.Defs

/-!
The schemas of params. Each says where in a value the fields of its params stand, and in which form. A decoder
accepts exactly the values in which params stand in this way, and gives these params.
-/
namespace LspEndpoint

namespace Json

/-- The value is an object with such a value under that key. -/
def At (v : Json) (key : Text) (holds : Json → Prop) : Prop := ∃ w, v.get? key = some w ∧ holds w

/-- A field that may be missing: it is found if a value of that form stands under the key. -/
def Optional {α : Type} (v : Json) (key : Text) (form : α → Json) (found : Option α) : Prop :=
  ∀ a, found = some a ↔ v.get? key = some (form a)

/-- Params name the document that they are about. -/
def IsAbout (v : Json) (uri : Text) : Prop := v.At "textDocument" fun d => d.get? "uri" = some (.text uri)

end Json

/-- Lines and characters are whole numbers that are not negative. -/
structure Position.StandsIn (p : Position) (v : Json) : Prop where
  line : v.get? "line" = some (.int p.line)
  character : v.get? "character" = some (.int p.character)

structure Range.StandsIn (r : Range) (v : Json) : Prop where
  start : v.At "start" r.start.StandsIn
  stop : v.At "end" r.stop.StandsIn

/-- All members but the two known ones are kept, in their order. -/
structure FormattingOptions.StandsIn (o : FormattingOptions) (v : Json) : Prop where
  tabSize : v.get? "tabSize" = some (.int o.tabSize)
  insertSpaces : v.get? "insertSpaces" = some (.bool o.insertSpaces)
  extra : ∃ members, v = .object members ∧
    o.extra = members.filter fun m => m.1 ≠ Text.ofString "tabSize" ∧ m.1 ≠ Text.ofString "insertSpaces"

structure DocumentParams.StandsIn (p : DocumentParams) (v : Json) : Prop where
  uri : v.IsAbout p.uri

structure PositionParams.StandsIn (p : PositionParams) (v : Json) : Prop where
  uri : v.IsAbout p.uri
  position : v.At "position" p.position.StandsIn

structure RangeParams.StandsIn (p : RangeParams) (v : Json) : Prop where
  uri : v.IsAbout p.uri
  range : v.At "range" p.range.StandsIn

structure ReferenceParams.StandsIn (p : ReferenceParams) (v : Json) : Prop where
  uri : v.IsAbout p.uri
  position : v.At "position" p.position.StandsIn
  includeDeclaration : v.At "context" fun c =>
    c.get? "includeDeclaration" = some (.bool p.includeDeclaration)

structure RenameParams.StandsIn (p : RenameParams) (v : Json) : Prop where
  uri : v.IsAbout p.uri
  position : v.At "position" p.position.StandsIn
  newName : v.get? "newName" = some (.text p.newName)

structure CodeActionParams.StandsIn (p : CodeActionParams) (v : Json) : Prop where
  uri : v.IsAbout p.uri
  range : v.At "range" p.range.StandsIn
  context : v.get? "context" = some (.object p.context)
  diagnostics : ∃ items, (Json.object p.context).get? "diagnostics" = some (.array items)

structure FormattingParams.StandsIn (p : FormattingParams) (v : Json) : Prop where
  uri : v.IsAbout p.uri
  options : v.At "options" p.options.StandsIn

structure RangeFormattingParams.StandsIn (p : RangeFormattingParams) (v : Json) : Prop where
  uri : v.IsAbout p.uri
  range : v.At "range" p.range.StandsIn
  options : v.At "options" p.options.StandsIn

structure OnTypeFormattingParams.StandsIn (p : OnTypeFormattingParams) (v : Json) : Prop where
  uri : v.IsAbout p.uri
  position : v.At "position" p.position.StandsIn
  character : v.get? "ch" = some (.text p.character)
  options : v.At "options" p.options.StandsIn

/-- The process id is null or a number, and is there. -/
structure InitializeParams.StandsIn (p : InitializeParams) (v : Json) : Prop where
  processId : v.At "processId" fun id => id = .null ∨ (∃ n, id = .int n) ∨ ∃ x, id = .float x
  capabilities : v.get? "capabilities" = some (.object p.capabilities)
  clientInfo : v.Optional "clientInfo" .object p.clientInfo

structure ExecuteCommandParams.StandsIn (p : ExecuteCommandParams) (v : Json) : Prop where
  command : v.get? "command" = some p.command
  uri : v.get? "arguments" = some (.array [.text p.uri])
  workDoneToken : v.get? "workDoneToken" = some p.workDoneToken

/-- A range that is there is a well-formed one. -/
structure ContentChange.StandsIn (c : ContentChange) (v : Json) : Prop where
  text : v.get? "text" = some (.text c.text)
  range : match c.range with
    | none => v.get? "range" = none
    | some r => v.At "range" r.StandsIn

/-- A language id that is no text counts as empty, and a version that is no whole number as zero. -/
structure DidOpenParams.StandsInDocument (p : DidOpenParams) (d : Json) : Prop where
  uri : d.get? "uri" = some (.text p.uri)
  text : d.get? "text" = some (.text p.text)
  languageId : ∃ found, d.Optional "languageId" .text found ∧ p.languageId = found.getD []
  version : ∃ found, d.Optional "version" .int found ∧ p.version = found.getD 0

structure DidOpenParams.StandsIn (p : DidOpenParams) (v : Json) : Prop where
  document : v.At "textDocument" p.StandsInDocument

structure DidChangeParams.StandsIn (p : DidChangeParams) (v : Json) : Prop where
  uri : v.IsAbout p.uri
  version : (v.get "textDocument").Optional "version" .int p.version
  changes : ∃ items, v.get? "contentChanges" = some (.array items) ∧
    List.Forall₂ ContentChange.StandsIn p.changes items

structure DidCloseParams.StandsIn (p : DidCloseParams) (v : Json) : Prop where
  uri : v.IsAbout p.uri

namespace Json

variable {v w : Json} {key : Text}

theorem exists_object_of_get? (h : v.get? key = some w) : ∃ members, v = .object members := by
  cases v with
  | object members => exact ⟨members, rfl⟩
  | _ => cases h

theorem At.exists_object {holds : Json → Prop} (h : v.At key holds) : ∃ members, v = .object members := by
  obtain ⟨w, hw, -⟩ := h
  exact exists_object_of_get? hw

/-- What does not hold of null holds of what stands under a key exactly if that is there. -/
theorem at_iff_get {holds : Json → Prop} (h : ¬ holds .null) : v.At key holds ↔ holds (v.get key) := by
  unfold At get
  cases v.get? key with
  | none => simpa using h
  | some w => simp

end Json

namespace Params

section Parts

variable {α : Type}

theorem require_eq_ok {part : Part} {got : Json} {found : Option α} {a : α} :
    require part got found = .ok a ↔ found = some a := by
  cases found <;> simp [require]

theorem requireObject_eq_ok {method : Text} {v : Json} {u : Unit} :
    requireObject method v = .ok u ↔ ∃ members, v = .object members := by
  cases v <;> simp [requireObject]

/-- A part of a value is found exactly where a value of that form stands. -/
structure Recognizes (find : Json → Option α) (form : α → Json) : Prop where
  eq_some_iff : ∀ v a, find v = some a ↔ v = form a
  ne_null : ∀ a, form a ≠ .null

theorem Recognizes.get {find : Json → Option α} {form : α → Json} (h : Recognizes find form) {v : Json}
    {key : Text} {a : α} : find (v.get key) = some a ↔ v.get? key = some (form a) := by
  have ha : v.At key (· = form a) ↔ v.get key = form a := Json.at_iff_get (h.ne_null a).symm
  rw [h.eq_some_iff, ← ha]
  simp [Json.At]

theorem Recognizes.optional {find : Json → Option α} {form : α → Json} (h : Recognizes find form) {v : Json}
    {key : Text} {found : Option α} : v.Optional key form found ↔ find (v.get key) = found := by
  simp only [Json.Optional, ← h.get]
  exact ⟨fun hf => Option.ext fun a => (hf a).symm, fun hf a => by rw [hf]⟩

theorem natural?_recognizes : Recognizes natural? fun n => .int n where
  eq_some_iff v n := by
    cases v with
    | int i =>
      cases i with
      | ofNat k =>
        refine ⟨fun h => ?_, fun h => ?_⟩
        · cases h
          rfl
        · cases h
          rfl
      | negSucc k => exact iff_of_false nofun nofun
    | _ => simp [natural?]
  ne_null _ h := by cases h

theorem int?_recognizes : Recognizes int? .int where
  eq_some_iff v n := by cases v <;> simp [int?]
  ne_null _ h := by cases h

theorem text?_recognizes : Recognizes text? .text where
  eq_some_iff v t := by cases v <;> simp [text?]
  ne_null _ h := by cases h

theorem bool?_recognizes : Recognizes bool? .bool where
  eq_some_iff v b := by cases v <;> simp [bool?]
  ne_null _ h := by cases h

theorem members?_recognizes : Recognizes members? .object where
  eq_some_iff v members := by cases v <;> simp [members?]
  ne_null _ h := by cases h

theorem items?_recognizes : Recognizes items? .array where
  eq_some_iff v items := by cases v <;> simp [items?]
  ne_null _ h := by cases h

theorem onlyText?_recognizes : Recognizes onlyText? fun t => .array [.text t] where
  eq_some_iff v t := by
    unfold onlyText?
    split
    · simp
    · rename_i h
      exact ⟨fun hs => (nomatch hs), fun hv => absurd hv (h t)⟩
  ne_null _ h := by cases h

end Parts

section Shared

variable {v : Json} {key : Text}

theorem position_eq_ok {p : Position} : position v = .ok p ↔ p.StandsIn v := by
  rw [position, require_eq_ok]
  unfold position?
  constructor
  · intro h
    split at h
    · rename_i hline hcharacter
      cases h
      exact ⟨natural?_recognizes.get.1 hline, natural?_recognizes.get.1 hcharacter⟩
    · cases h
  · rintro ⟨hline, hcharacter⟩
    rw [natural?_recognizes.get.2 hline, natural?_recognizes.get.2 hcharacter]

theorem position_get {p : Position} : position (v.get key) = .ok p ↔ v.At key p.StandsIn := by
  rw [position_eq_ok, Json.at_iff_get]
  exact fun h => nomatch h.line

theorem range_eq_ok {r : Range} : range v = .ok r ↔ r.StandsIn v := by
  constructor
  · intro h
    cases v with
    | object members =>
      simp only [range, bind_eq_ok, pure_eq_ok, position_get] at h
      obtain ⟨start, hstart, stop, hstop, rfl⟩ := h
      exact ⟨hstart, hstop⟩
    | _ => cases h
  · intro h
    obtain ⟨members, rfl⟩ := h.start.exists_object
    simp only [range, bind_eq_ok, pure_eq_ok, position_get]
    exact ⟨_, h.start, _, h.stop, rfl⟩

theorem range_get {r : Range} : range (v.get key) = .ok r ↔ v.At key r.StandsIn := by
  rw [range_eq_ok, Json.at_iff_get]
  exact fun h => by obtain ⟨members, hm⟩ := h.start.exists_object; cases hm

theorem textDocumentUri_eq_ok {uri : Text} : textDocumentUri v = .ok uri ↔ v.IsAbout uri := by
  rw [textDocumentUri, require_eq_ok, text?_recognizes.get, Json.IsAbout, Json.at_iff_get]
  exact fun h => nomatch h

theorem formattingOptions_eq_ok {o : FormattingOptions} : formattingOptions v = .ok o ↔ o.StandsIn v := by
  rw [formattingOptions, require_eq_ok]
  unfold formattingOptions?
  constructor
  · intro h
    split at h
    · rename_i members _ _ hmembers htab hspaces
      cases h
      exact ⟨int?_recognizes.get.1 htab, bool?_recognizes.get.1 hspaces, members,
        (members?_recognizes.eq_some_iff _ _).1 hmembers, rfl⟩
    · cases h
  · rintro ⟨htab, hspaces, members, rfl, hextra⟩
    rw [int?_recognizes.get.2 htab, bool?_recognizes.get.2 hspaces]
    simp only [members?, ← hextra]

theorem formattingOptions_get {o : FormattingOptions} :
    formattingOptions (v.get key) = .ok o ↔ v.At key o.StandsIn := by
  rw [formattingOptions_eq_ok, Json.at_iff_get]
  exact fun h => nomatch h.tabSize

end Shared

/-- A decoder accepts the values in which such params stand, gives these params, and rejects all other values. -/
structure Reads {α : Type} (decode : Json → Decoded α) (standsIn : α → Json → Prop) : Prop where
  accepts : ∀ v a, decode v = .ok a ↔ standsIn a v
  rejects : ∀ v, (∃ e, decode v = .error e) ↔ ∀ a, ¬ standsIn a v

theorem Reads.of_accepts {α : Type} {decode : Json → Decoded α} {standsIn : α → Json → Prop}
    (h : ∀ v a, decode v = .ok a ↔ standsIn a v) : Reads decode standsIn := by
  refine ⟨h, fun v => ?_⟩
  simp only [← h]
  cases decode v <;> simp

section Decoders

variable (method : Text)

theorem position_reads : Reads position Position.StandsIn := .of_accepts fun _ _ => position_eq_ok

theorem range_reads : Reads range Range.StandsIn := .of_accepts fun _ _ => range_eq_ok

theorem formattingOptions_reads : Reads formattingOptions FormattingOptions.StandsIn :=
  .of_accepts fun _ _ => formattingOptions_eq_ok

theorem document_reads : Reads (document method) DocumentParams.StandsIn := by
  refine .of_accepts fun v p => ?_
  simp only [document, bind_eq_ok, pure_eq_ok, requireObject_eq_ok, textDocumentUri_eq_ok]
  constructor
  · rintro ⟨_, -, uri, huri, rfl⟩
    exact ⟨huri⟩
  · intro h
    exact ⟨(), h.uri.exists_object, _, h.uri, rfl⟩

theorem textDocumentPosition_reads : Reads (textDocumentPosition method) PositionParams.StandsIn := by
  refine .of_accepts fun v p => ?_
  simp only [textDocumentPosition, bind_eq_ok, pure_eq_ok, requireObject_eq_ok, textDocumentUri_eq_ok,
    position_get]
  constructor
  · rintro ⟨_, -, uri, huri, position, hposition, rfl⟩
    exact ⟨huri, hposition⟩
  · intro h
    exact ⟨(), h.uri.exists_object, _, h.uri, _, h.position, rfl⟩

theorem rangeParams_reads : Reads (rangeParams method) RangeParams.StandsIn := by
  refine .of_accepts fun v p => ?_
  simp only [rangeParams, bind_eq_ok, pure_eq_ok, requireObject_eq_ok, textDocumentUri_eq_ok, range_get]
  constructor
  · rintro ⟨_, -, uri, huri, range, hrange, rfl⟩
    exact ⟨huri, hrange⟩
  · intro h
    exact ⟨(), h.uri.exists_object, _, h.uri, _, h.range, rfl⟩

theorem references_reads : Reads (references method) ReferenceParams.StandsIn := by
  refine .of_accepts fun v p => ?_
  have hcontext (b : Bool) : bool? ((v.get "context").get "includeDeclaration") = some b ↔
      v.At "context" fun c => c.get? "includeDeclaration" = some (.bool b) := by
    rw [bool?_recognizes.get, Json.at_iff_get]
    exact fun h => nomatch h
  simp only [references, bind_eq_ok, pure_eq_ok, requireObject_eq_ok, require_eq_ok, hcontext,
    textDocumentUri_eq_ok, position_get]
  constructor
  · rintro ⟨_, -, declaration, hdeclaration, uri, huri, position, hposition, rfl⟩
    exact ⟨huri, hposition, hdeclaration⟩
  · intro h
    exact ⟨(), h.uri.exists_object, _, h.includeDeclaration, _, h.uri, _, h.position, rfl⟩

theorem rename_reads : Reads (rename method) RenameParams.StandsIn := by
  refine .of_accepts fun v p => ?_
  simp only [rename, bind_eq_ok, pure_eq_ok, requireObject_eq_ok, require_eq_ok, text?_recognizes.get,
    textDocumentUri_eq_ok, position_get]
  constructor
  · rintro ⟨_, -, newName, hname, uri, huri, position, hposition, rfl⟩
    exact ⟨huri, hposition, hname⟩
  · intro h
    exact ⟨(), h.uri.exists_object, _, h.newName, _, h.uri, _, h.position, rfl⟩

theorem codeActionContext?_eq_some {w : Json} {members : Json.Members} :
    codeActionContext? w = some members ↔
      w = .object members ∧ ∃ items, (Json.object members).get? "diagnostics" = some (.array items) := by
  unfold codeActionContext?
  constructor
  · intro h
    split at h
    · rename_i hmembers hitems
      cases h
      have hw := (members?_recognizes.eq_some_iff _ _).1 hmembers
      exact ⟨hw, _, items?_recognizes.get.1 (hw ▸ hitems)⟩
    · cases h
  · rintro ⟨rfl, items, hitems⟩
    rw [items?_recognizes.get.2 hitems]
    rfl

theorem codeAction_reads : Reads (codeAction method) CodeActionParams.StandsIn := by
  refine .of_accepts fun v p => ?_
  have hcontext (members : Json.Members) : codeActionContext? (v.get "context") = some members ↔
      v.get? "context" = some (.object members) ∧
        ∃ items, (Json.object members).get? "diagnostics" = some (.array items) := by
    rw [codeActionContext?_eq_some, ← members?_recognizes.eq_some_iff, members?_recognizes.get]
  simp only [codeAction, bind_eq_ok, pure_eq_ok, requireObject_eq_ok, require_eq_ok, hcontext,
    textDocumentUri_eq_ok, range_get]
  constructor
  · rintro ⟨_, -, context, ⟨hcontext, hitems⟩, uri, huri, range, hrange, rfl⟩
    exact ⟨huri, hrange, hcontext, hitems⟩
  · intro h
    exact ⟨(), h.uri.exists_object, _, ⟨h.context, h.diagnostics⟩, _, h.uri, _, h.range, rfl⟩

theorem formatting_reads : Reads (formatting method) FormattingParams.StandsIn := by
  refine .of_accepts fun v p => ?_
  simp only [formatting, bind_eq_ok, pure_eq_ok, requireObject_eq_ok, textDocumentUri_eq_ok,
    formattingOptions_get]
  constructor
  · rintro ⟨_, -, uri, huri, options, hoptions, rfl⟩
    exact ⟨huri, hoptions⟩
  · intro h
    exact ⟨(), h.uri.exists_object, _, h.uri, _, h.options, rfl⟩

theorem rangeFormatting_reads : Reads (rangeFormatting method) RangeFormattingParams.StandsIn := by
  refine .of_accepts fun v p => ?_
  simp only [rangeFormatting, bind_eq_ok, pure_eq_ok, requireObject_eq_ok, textDocumentUri_eq_ok, range_get,
    formattingOptions_get]
  constructor
  · rintro ⟨_, -, uri, huri, range, hrange, options, hoptions, rfl⟩
    exact ⟨huri, hrange, hoptions⟩
  · intro h
    exact ⟨(), h.uri.exists_object, _, h.uri, _, h.range, _, h.options, rfl⟩

theorem onTypeFormatting_reads : Reads (onTypeFormatting method) OnTypeFormattingParams.StandsIn := by
  refine .of_accepts fun v p => ?_
  simp only [onTypeFormatting, bind_eq_ok, pure_eq_ok, requireObject_eq_ok, require_eq_ok,
    text?_recognizes.get, textDocumentUri_eq_ok, position_get, formattingOptions_get]
  constructor
  · rintro ⟨_, -, character, hcharacter, uri, huri, position, hposition, options, hoptions, rfl⟩
    exact ⟨huri, hposition, hcharacter, hoptions⟩
  · intro h
    exact ⟨(), h.uri.exists_object, _, h.character, _, h.uri, _, h.position, _, h.options, rfl⟩

theorem isProcessId_iff {id : Json} :
    isProcessId id ↔ id = .null ∨ (∃ n, id = .int n) ∨ ∃ x, id = .float x := by
  cases id <;> simp [isProcessId]

theorem initialization_reads : Reads initialization InitializeParams.StandsIn := by
  refine .of_accepts fun v p => ?_
  simp only [initialization, processId, bind_eq_ok, pure_eq_ok, requireObject_eq_ok, require_eq_ok,
    Option.filter_eq_some_iff, isProcessId_iff, members?_recognizes.get]
  constructor
  · rintro ⟨_, -, id, hid, capabilities, hcapabilities, rfl⟩
    exact ⟨⟨id, hid⟩, hcapabilities, members?_recognizes.optional.2 rfl⟩
  · intro h
    obtain ⟨id, hid⟩ := h.processId
    refine ⟨(), h.processId.exists_object, id, hid, _, h.capabilities, ?_⟩
    rw [members?_recognizes.optional.1 h.clientInfo]

theorem executeCommand_reads : Reads executeCommand ExecuteCommandParams.StandsIn := by
  refine .of_accepts fun v p => ?_
  rw [executeCommand, require_eq_ok]
  unfold executeCommand?
  constructor
  · intro h
    split at h
    · rename_i hcommand htoken huri
      cases h
      exact ⟨hcommand, onlyText?_recognizes.get.1 huri, htoken⟩
    · cases h
  · intro h
    rw [h.command, h.workDoneToken, onlyText?_recognizes.get.2 h.uri]

theorem openedDocument?_eq_some {d : Json} {p : DidOpenParams} :
    openedDocument? d = some p ↔ p.StandsInDocument d := by
  unfold openedDocument?
  constructor
  · intro h
    split at h
    · rename_i huri htext
      cases h
      exact ⟨text?_recognizes.get.1 huri, text?_recognizes.get.1 htext,
        ⟨_, text?_recognizes.optional.2 rfl, rfl⟩, _, int?_recognizes.optional.2 rfl, rfl⟩
    · cases h
  · rintro ⟨huri, htext, ⟨language, hlanguage, hl⟩, version, hversion, hv⟩
    rw [text?_recognizes.get.2 huri, text?_recognizes.get.2 htext, text?_recognizes.optional.1 hlanguage,
      int?_recognizes.optional.1 hversion, ← hl, ← hv]

theorem didOpen_reads : Reads didOpen DidOpenParams.StandsIn := by
  refine .of_accepts fun v p => ?_
  have hnull : ¬ p.StandsInDocument .null := fun h => nomatch h.uri
  simp only [didOpen, bind_eq_ok, requireObject_eq_ok, require_eq_ok, openedDocument?_eq_some,
    ← Json.at_iff_get hnull]
  constructor
  · rintro ⟨_, -, h⟩
    exact ⟨h⟩
  · rintro ⟨h⟩
    exact ⟨(), h.exists_object, h⟩

theorem contentChange_eq_ok {v : Json} {c : ContentChange} : contentChange v = .ok c ↔ c.StandsIn v := by
  simp only [contentChange, bind_eq_ok, require_eq_ok, text?_recognizes.get]
  constructor
  · rintro ⟨text, htext, h⟩
    split at h
    · rename_i hrange
      rw [pure_eq_ok] at h
      subst h
      exact ⟨htext, hrange⟩
    · rename_i w hrange
      simp only [bind_eq_ok, pure_eq_ok, range_eq_ok] at h
      obtain ⟨r, hr, rfl⟩ := h
      exact ⟨htext, w, hrange, hr⟩
  · obtain ⟨text, range⟩ := c
    rintro ⟨htext, hrange⟩
    refine ⟨text, htext, ?_⟩
    cases range with
    | none => rw [hrange]; rfl
    | some r =>
      obtain ⟨w, hw, hr⟩ := hrange
      rw [hw]
      simp only [bind_eq_ok, pure_eq_ok, range_eq_ok]
      exact ⟨r, hr, rfl⟩

theorem contentChanges_eq_ok {items : List Json} {changes : List ContentChange} :
    contentChanges items = .ok changes ↔ List.Forall₂ ContentChange.StandsIn changes items := by
  induction items generalizing changes with
  | nil =>
    constructor
    · intro h
      cases h
      exact .nil
    · intro h
      cases h
      rfl
  | cons v rest ih =>
    simp only [contentChanges, bind_eq_ok, pure_eq_ok, contentChange_eq_ok, ih]
    constructor
    · rintro ⟨change, hchange, later, hlater, rfl⟩
      exact .cons hchange hlater
    · rintro (_ | ⟨hchange, hlater⟩)
      exact ⟨_, hchange, _, hlater, rfl⟩

theorem didChange_reads : Reads didChange DidChangeParams.StandsIn := by
  refine .of_accepts fun v p => ?_
  simp only [didChange, bind_eq_ok, pure_eq_ok, requireObject_eq_ok, require_eq_ok, textDocumentUri_eq_ok,
    items?_recognizes.get, contentChanges_eq_ok]
  constructor
  · rintro ⟨_, -, uri, huri, items, hitems, changes, hchanges, rfl⟩
    exact ⟨huri, int?_recognizes.optional.2 rfl, items, hitems, hchanges⟩
  · intro h
    obtain ⟨items, hitems, hchanges⟩ := h.changes
    refine ⟨(), h.uri.exists_object, _, h.uri, items, hitems, _, hchanges, ?_⟩
    rw [int?_recognizes.optional.1 h.version]

theorem didClose_reads : Reads didClose DidCloseParams.StandsIn := by
  refine .of_accepts fun v p => ?_
  simp only [didClose, bind_eq_ok, pure_eq_ok, requireObject_eq_ok, textDocumentUri_eq_ok]
  constructor
  · rintro ⟨_, -, uri, huri, rfl⟩
    exact ⟨huri⟩
  · intro h
    exact ⟨(), h.uri.exists_object, _, h.uri, rfl⟩

/-- Every decoder, whichever method it reads params for, accepts exactly what its schema describes. -/
structure DecodersAreExact : Prop where
  position : Reads position Position.StandsIn
  range : Reads range Range.StandsIn
  formattingOptions : Reads formattingOptions FormattingOptions.StandsIn
  document : ∀ method, Reads (document method) DocumentParams.StandsIn
  textDocumentPosition : ∀ method, Reads (textDocumentPosition method) PositionParams.StandsIn
  rangeParams : ∀ method, Reads (rangeParams method) RangeParams.StandsIn
  references : ∀ method, Reads (references method) ReferenceParams.StandsIn
  rename : ∀ method, Reads (rename method) RenameParams.StandsIn
  codeAction : ∀ method, Reads (codeAction method) CodeActionParams.StandsIn
  formatting : ∀ method, Reads (formatting method) FormattingParams.StandsIn
  rangeFormatting : ∀ method, Reads (rangeFormatting method) RangeFormattingParams.StandsIn
  onTypeFormatting : ∀ method, Reads (onTypeFormatting method) OnTypeFormattingParams.StandsIn
  initialization : Reads initialization InitializeParams.StandsIn
  executeCommand : Reads executeCommand ExecuteCommandParams.StandsIn
  didOpen : Reads didOpen DidOpenParams.StandsIn
  didChange : Reads didChange DidChangeParams.StandsIn
  didClose : Reads didClose DidCloseParams.StandsIn

theorem decoders_exact : DecodersAreExact where
  position := position_reads
  range := range_reads
  formattingOptions := formattingOptions_reads
  document := document_reads
  textDocumentPosition := textDocumentPosition_reads
  rangeParams := rangeParams_reads
  references := references_reads
  rename := rename_reads
  codeAction := codeAction_reads
  formatting := formatting_reads
  rangeFormatting := rangeFormatting_reads
  onTypeFormatting := onTypeFormatting_reads
  initialization := initialization_reads
  executeCommand := executeCommand_reads
  didOpen := didOpen_reads
  didChange := didChange_reads
  didClose := didClose_reads

/-- A flag is no number. -/
example : (position (.record [("line", .bool true), ("character", .int 0)])).toOption = none := by decide

end Decoders

end Params

end LspEndpoint
