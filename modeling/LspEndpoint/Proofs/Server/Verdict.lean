import LspEndpoint.Method.Registry
import LspEndpoint.Proofs.Params.Schema
import LspEndpoint.Proofs.Server.Frame

/-!
What a request is answered. The method and the params alone decide who answers: nobody, if the method is not served or
the params are not those of the method, the server itself for an initialization and a shutdown, and for all operations
the backend, which is asked once and whose answer goes to the client as it is, except that of a fault no more is told
than the method. All this is so exactly if the trace has room for the params and what the backend answers can be shown.
-/
namespace LspEndpoint

namespace Params

variable {α β : Type}

/-- The params of a decoder in another shape. -/
theorem Reads.map {decode : Json → Decoded α} {standsIn : α → Json → Prop} (h : Reads decode standsIn)
    (f : α → β) : Reads (fun v => (decode v).map f) fun b v => ∃ a, standsIn a v ∧ b = f a := by
  refine .of_accepts fun v b => ?_
  simp only [map_eq_ok, h.accepts]

end Params

/-- The arguments of an operation stand in the params as its kind of params does. -/
def Operation.Takes (operation : Operation) (a : Arguments) (params : Json) : Prop :=
  match operation with
  | .documentSymbol | .codeLens => ∃ p : DocumentParams, p.StandsIn params ∧ a = .document p
  | .hover | .completion | .signatureHelp | .definition | .documentHighlight | .prepareRename =>
    ∃ p : PositionParams, p.StandsIn params ∧ a = .position p
  | .inlayHint => ∃ p : RangeParams, p.StandsIn params ∧ a = .range p
  | .references => ∃ p : ReferenceParams, p.StandsIn params ∧ a = .references p
  | .rename => ∃ p : RenameParams, p.StandsIn params ∧ a = .rename p
  | .codeAction => ∃ p : CodeActionParams, p.StandsIn params ∧ a = .codeAction p
  | .formatting => ∃ p : FormattingParams, p.StandsIn params ∧ a = .formatting p
  | .rangeFormatting => ∃ p : RangeFormattingParams, p.StandsIn params ∧ a = .rangeFormatting p
  | .onTypeFormatting => ∃ p : OnTypeFormattingParams, p.StandsIn params ∧ a = .onTypeFormatting p

/-- Each operation is given to the decoder of its own kind of params. -/
theorem Arguments.decode_reads (operation : Operation) :
    Params.Reads (Arguments.decode operation) operation.Takes := by
  cases operation with
  | documentSymbol | codeLens => exact (Params.document_reads _).map Arguments.document
  | hover | completion | signatureHelp | definition | documentHighlight | prepareRename =>
    exact (Params.textDocumentPosition_reads _).map Arguments.position
  | inlayHint => exact (Params.rangeParams_reads _).map Arguments.range
  | references => exact (Params.references_reads _).map Arguments.references
  | rename => exact (Params.rename_reads _).map Arguments.rename
  | codeAction => exact (Params.codeAction_reads _).map Arguments.codeAction
  | formatting => exact (Params.formatting_reads _).map Arguments.formatting
  | rangeFormatting => exact (Params.rangeFormatting_reads _).map Arguments.rangeFormatting
  | onTypeFormatting => exact (Params.onTypeFormatting_reads _).map Arguments.onTypeFormatting

theorem RequestMethod.ofText?_eq_none_iff {method : Text} :
    ofText? method = none ↔ method ∉ Registry.served.requests := by
  simp only [ofText?, findNamed?, Registry.served, List.find?_eq_none, List.mem_map, beq_iff_eq, not_exists, not_and]
  exact forall₂_congr fun m _ => not_congr eq_comm

open Rpc

/-- What a client is sent for an answer: the result, the error that was meant for it, or that something went wrong in
the method. -/
def Answer.envelope (id : Json) (method : Text) : Answer → Json
  | .result value => resultEnvelope id value
  | .refused e => errorEnvelope id e.code e.message e.data
  | .failed _ => errorEnvelope id (-32603) ("internal error in method " ++ method) .null

namespace Server

variable {σ : Type} {setup : Setup σ} {s : State σ} {id params : Json} {method : Text}

/-- A request is refused for its params: it has no effect, and the client is told what is wrong with them. -/
def RefusesParams (setup : Setup σ) (s : State σ) (id : Json) (method : Text) (params : Json) : Prop :=
  (request setup id method params s).Inert s ∧
    ∃ message, (responseTo setup id method params s).toJson = .ok (errorEnvelope id (-32602) message .null)

section Handlers

variable {m : RequestMethod}

variable (h : s.traceClosed = false) (hroom : setup.hasRoom params.depth)

include h hroom

/-- A request with a method that is known does what the handler of the method does, and is answered as it ended. -/
theorem request_handled (id : Json) (hm : RequestMethod.ofText? method = some m) :
    (request setup id method params s).state.Agrees (handled setup m params (begun setup id method params s)).state ∧
      deeds (request setup id method params s).events =
        deeds (handled setup m params (begun setup id method params s)).events ∧
      (responseTo setup id method params s).reply =
        (handled setup m params (begun setup id method params s)).outcome.told method := by
  have ha := request_attended setup id method (.inr h) hroom
  have hc := replied_conveys hm setup params (begun setup id method params s)
  exact ⟨hc.state ▸ ha.state, ha.deeds.trans hc.deeds, hc.reply⟩

theorem refusesParams_of_refused (id : Json) (hm : RequestMethod.ofText? method = some m) {e : Params.Error}
    (hr : ∀ u : State σ, handled setup m params u = .refused u e) : RefusesParams setup s id method params := by
  obtain ⟨hstate, hdeeds, hreply⟩ := request_handled h hroom id hm
  rw [hr] at hstate hdeeds hreply
  exact ⟨Step.Bides.inert ⟨hstate.trans (begun_agrees setup id method params s), hdeeds⟩, _, toJson_of_error hreply⟩

/-- An answer that comes from behind the server. -/
theorem toJson_of_outcomeOf (hm : RequestMethod.ofText? method = some m) {a : Answer}
    (ha : (handled setup m params (begun setup id method params s)).outcome = outcomeOf a) :
    (responseTo setup id method params s).toJson = .ok (a.envelope id method) := by
  obtain ⟨-, -, hreply⟩ := request_handled h hroom id hm
  rw [ha] at hreply
  cases a with
  | result value => exact toJson_of_result hreply
  | refused e => exact toJson_of_error hreply
  | failed f => exact toJson_of_error hreply

end Handlers

/-- An answer that can be shown in the log, and named in the trace if there is one. -/
def Setup.Shows (setup : Setup σ) (a : Answer) : Prop := a.isNoted ∧ (setup.tracing.isSome → a.isNamed)

/-- What requests with these params come to, for every method but the execution of commands. -/
structure Judges (setup : Setup σ) (s : State σ) (id params : Json) : Prop where
  sends : ∀ method, method ≠ Text.ofString "workspace/executeCommand" →
    (request setup id method params s).Sends setup (responseTo setup id method params s)
  unknown : ∀ method, method ∉ Registry.served.requests →
    (request setup id method params s).Inert s ∧
      (responseTo setup id method params s).toJson =
        .ok (errorEnvelope id (-32601) ("The method '" ++ method ++ "' was not found") .null)
  shutdown :
    deeds (request setup id "shutdown" params s).events = [] ∧
      (responseTo setup id "shutdown" params s).toJson = .ok (resultEnvelope id .null)
  uninitializable : (∀ p : InitializeParams, ¬ p.StandsIn params) → RefusesParams setup s id "initialize" params
  initialized : ∀ p : InitializeParams, p.StandsIn params →
    deeds (request setup id "initialize" params s).events = [] ∧
      (∀ e, (responseTo setup id "initialize" params s).reply ≠ .error e) ∧
      ∀ info, setup.serverInfo = .ok info →
        (responseTo setup id "initialize" params s).toJson = .ok (resultEnvelope id (Lifecycle.welcome info p))
  rejected : ∀ operation : Operation, (∀ a, ¬ operation.Takes a params) →
    RefusesParams setup s id operation.method params
  asked : ∀ (operation : Operation) (a : Arguments), operation.Takes a params →
    deeds (request setup id operation.method params s).events = [.asked ⟨operation, a⟩] ∧
      (responseTo setup id operation.method params s).toJson =
        .ok ((setup.ask (begun setup id operation.method params s).host s.store ⟨operation, a⟩).1.envelope id
          operation.method)

section Methods

variable (h : s.traceClosed = false) (hroom : setup.hasRoom params.depth)

include h hroom

theorem request_unknown (hm : method ∉ Registry.served.requests) :
    (request setup id method params s).Inert s ∧
      (responseTo setup id method params s).toJson =
        .ok (errorEnvelope id (-32601) ("The method '" ++ method ++ "' was not found") .null) := by
  obtain ⟨hinert, hresponse, -⟩ := request_of_unknown setup id h hroom (RequestMethod.ofText?_eq_none_iff.2 hm)
  exact ⟨hinert, toJson_of_error (congrArg Response.reply hresponse)⟩

theorem request_shutdown :
    deeds (request setup id "shutdown" params s).events = [] ∧
      (responseTo setup id "shutdown" params s).toJson = .ok (resultEnvelope id .null) := by
  obtain ⟨-, hdeeds, hreply⟩ := request_handled h hroom id (RequestMethod.ofText?_method .shutdown)
  exact ⟨hdeeds, toJson_of_result hreply⟩

theorem request_uninitializable (hp : ∀ p : InitializeParams, ¬ p.StandsIn params) :
    RefusesParams setup s id "initialize" params := by
  obtain ⟨e, he⟩ := (Params.initialization_reads.rejects params).2 hp
  apply refusesParams_of_refused h hroom id (RequestMethod.ofText?_method .initialization)
  intro u
  rw [handled, Server.initialized, he]

theorem request_initialize {p : InitializeParams} (hp : p.StandsIn params) :
    deeds (request setup id "initialize" params s).events = [] ∧
      (∀ e, (responseTo setup id "initialize" params s).reply ≠ .error e) ∧
      ∀ info, setup.serverInfo = .ok info →
        (responseTo setup id "initialize" params s).toJson =
          .ok (resultEnvelope id (Lifecycle.welcome info p)) := by
  have hd := (Params.initialization_reads.accepts params p).2 hp
  obtain ⟨-, hdeeds, hreply⟩ := request_handled h hroom id (RequestMethod.ofText?_method .initialization)
  rw [handled, Server.initialized, hd] at hdeeds hreply
  refine ⟨hdeeds, fun e he => ?_, fun info hinfo => ?_⟩
  · have hw : welcomed setup.serverInfo p = .error e := hreply.symm.trans he
    unfold welcomed at hw
    split at hw <;> cases hw
  · have hw : welcomed setup.serverInfo p = .result (Lifecycle.welcome info p) := by
      rw [hinfo]
      rfl
    exact toJson_of_result (hreply.trans hw)

theorem request_rejected {operation : Operation} (hp : ∀ a, ¬ operation.Takes a params) :
    RefusesParams setup s id operation.method params := by
  obtain ⟨e, he⟩ := ((Arguments.decode_reads operation).rejects params).2 hp
  apply refusesParams_of_refused h hroom id (RequestMethod.ofText?_method (.document operation))
  intro u
  rw [handled, queried, he]

theorem request_asked {operation : Operation} {a : Arguments} (hp : operation.Takes a params) :
    deeds (request setup id operation.method params s).events = [.asked ⟨operation, a⟩] ∧
      (responseTo setup id operation.method params s).toJson =
        .ok ((setup.ask (begun setup id operation.method params s).host s.store ⟨operation, a⟩).1.envelope id
          operation.method) := by
  have hd := ((Arguments.decode_reads operation).accepts params a).2 hp
  have hm := RequestMethod.ofText?_method (.document operation)
  have hstore := (begun_agrees setup id operation.method params s).store
  obtain ⟨-, hdeeds, -⟩ := request_handled h hroom id hm
  rw [handled, queried, hd] at hdeeds
  refine ⟨hdeeds, toJson_of_outcomeOf h hroom hm ?_⟩
  rw [handled, queried, hd, ← hstore]
  rfl

end Methods

section Sending

variable {m : RequestMethod}

/-- What a handler comes to can be shown exactly if neither its fault nor its code stops the server. -/
def Outcome.IsShown (setup : Setup σ) : Outcome → Prop
  | .reply r => ∀ e, r = .error e → setup.tracing.isSome → Integer.isShown e.code
  | .fault f => f.isShown

theorem Outcome.isShown_outcomeOf (a : Answer) : (outcomeOf a).IsShown setup ↔ setup.Shows a := by
  cases a with
  | result v => simp [outcomeOf, IsShown, Setup.Shows, Answer.isNoted, Answer.isNamed]
  | refused e => simp [outcomeOf, IsShown, Setup.Shows, Answer.isNoted, Answer.isNamed]
  | failed f => simp [outcomeOf, IsShown, Setup.Shows, Answer.isNoted, Answer.isNamed]

/-- A request that is known is answered exactly if what its handler comes to can be shown. -/
theorem request_sends_iff (id : Json) (h : s.traceClosed = false) (hroom : setup.hasRoom params.depth)
    (hm : RequestMethod.ofText? method = some m) :
    (request setup id method params s).Sends setup (responseTo setup id method params s) ↔
      (handled setup m params (begun setup id method params s)).outcome.IsShown setup := by
  have ha := request_attended setup id method (.inr h) hroom
  have hc := replied_conveys hm setup params (begun setup id method params s)
  have hreply : (responseTo setup id method params s).reply =
      (handled setup m params (begun setup id method params s)).outcome.told method := hc.reply
  cases ho : (handled setup m params (begun setup id method params s)).outcome with
  | fault f =>
    rw [ho] at hreply
    have hhalt : (replied setup method params (begun setup id method params s)).1.halt = f.raised?.map .raised := by
      rw [hc.halt, ho]
      rfl
    have hnamed : setup.canName (responseTo setup id method params s) := by
      rw [Setup.canName_iff, Response.code?_of_error hreply]
      rintro code - hcode
      cases hcode
      exact Integer.isShown_of_natAbs_lt (n := -32603) (by decide)
    cases hr : f.raised? with
    | none =>
      rw [hr] at hhalt
      exact iff_of_true (ha.sends hhalt hnamed) (by simp [Outcome.IsShown, Fault.isShown, hr])
    | some r =>
      rw [hr] at hhalt
      refine iff_of_false (fun hs => hs.not_raised r (ha.raises r hhalt).halt) ?_
      simp [Outcome.IsShown, Fault.isShown, hr]
  | reply r =>
    rw [ho] at hreply
    have hhalt : (replied setup method params (begun setup id method params s)).1.halt = none := by
      rw [hc.halt, ho]
      rfl
    have hnamed : setup.canName (responseTo setup id method params s) ↔ Outcome.IsShown setup (.reply r) := by
      rw [Setup.canName_iff]
      constructor
      · rintro hn e rfl ht
        exact hn e.code ht (Response.code?_of_error hreply)
      · intro hn code ht hcode
        obtain ⟨e, he, rfl⟩ := Response.code?_eq_some.1 hcode
        exact hn e (hreply.symm.trans he) ht
    rw [← hnamed]
    refine ⟨fun hs => ?_, ha.sends hhalt⟩
    cases hn : setup.canName (responseTo setup id method params s) with
    | true => rfl
    | false => exact absurd (ha.unnamed hhalt hn).halt (hs.not_raised _)

theorem Outcome.isShown_refusal (e : Params.Error) : Outcome.IsShown setup (.reply (refusal e)) := by
  intro e' he _
  cases he
  exact Integer.isShown_of_natAbs_lt (n := -32602) (by decide)

/-- What the backend is asked, if the params are those of the operation. -/
theorem outcome_asked (setup : Setup σ) (id : Json) (s : State σ) {operation : Operation} {a : Arguments}
    (hp : operation.Takes a params) :
    (handled setup (.document operation) params (begun setup id operation.method params s)).outcome =
      outcomeOf (setup.ask (begun setup id operation.method params s).host s.store ⟨operation, a⟩).1 := by
  have hd := ((Arguments.decode_reads operation).accepts params a).2 hp
  rw [handled, queried, hd, ← (begun_agrees setup id operation.method params s).store]

/-- Every request but the execution of a command is answered if what the backend answers to its params can be shown. -/
theorem request_sends (h : s.traceClosed = false) (hroom : setup.hasRoom params.depth)
    (hshows : ∀ (operation : Operation) (a : Arguments), operation.Takes a params →
      setup.Shows (setup.ask (begun setup id operation.method params s).host s.store ⟨operation, a⟩).1)
    (hne : method ≠ Text.ofString "workspace/executeCommand") :
    (request setup id method params s).Sends setup (responseTo setup id method params s) := by
  cases hm : RequestMethod.ofText? method with
  | none =>
    obtain ⟨-, hresponse, hsends⟩ := request_of_unknown setup id h hroom hm
    rwa [hresponse]
  | some m =>
    rw [request_sends_iff id h hroom hm]
    obtain rfl := RequestMethod.ofText?_eq_some.1 hm
    cases m with
    | initialization =>
      simp only [handled, initialized]
      split
      · exact Outcome.isShown_refusal _
      · intro e he
        unfold welcomed at he
        split at he <;> cases he
    | shutdown => exact fun e he => by cases he
    | executeCommand => exact absurd rfl hne
    | document operation =>
      cases hd : Arguments.decode operation params with
      | error e =>
        rw [handled, queried, hd]
        exact Outcome.isShown_refusal e
      | ok a =>
        have hp := ((Arguments.decode_reads operation).accepts params a).1 hd
        have houtcome := outcome_asked setup id s hp
        change Outcome.IsShown setup (handled setup _ params (begun setup id operation.method params s)).outcome
        rw [houtcome]
        exact (Outcome.isShown_outcomeOf _).2 (hshows operation a hp)

end Sending

/-- Whatever came before, a request is judged by its method and its params, and its answer goes to its id, exactly if the
trace has room for the params and what the backend answers to them can be shown. -/
theorem request_judged (setup : Setup σ) (host : σ) (past : List Json) (id params : Json) :
    Judges setup (stateAfter setup past (.start host)) id params ↔
      setup.hasRoom params.depth ∧ ∀ (operation : Operation) (a : Arguments), operation.Takes a params →
        setup.Shows (setup.ask (begun setup id operation.method params (stateAfter setup past (.start host))).host
          (stateAfter setup past (.start host)).store ⟨operation, a⟩).1 := by
  have h : (stateAfter setup past (.start host)).traceClosed = false := stateAfter_traceClosed setup past _
  generalize stateAfter setup past (.start host) = s at h
  constructor
  · intro hj
    have hroom : setup.hasRoom params.depth := by
      cases hr : setup.hasRoom params.depth with
      | true => rfl
      | false =>
        have hs := hj.sends "shutdown" (by decide)
        rw [request_of_deep _ _ hr] at hs
        exact absurd rfl (hs.not_raised .tooDeep)
    refine ⟨hroom, fun operation a hp => ?_⟩
    have hs := (request_sends_iff id h hroom (RequestMethod.ofText?_method (.document operation))).1
      (hj.sends operation.method (by cases operation <;> decide))
    rw [← Outcome.isShown_outcomeOf, ← outcome_asked setup id s hp]
    exact hs
  · rintro ⟨hroom, hshows⟩
    exact {
      sends := fun _ hne => request_sends h hroom hshows hne
      unknown := fun _ hm => request_unknown h hroom hm
      shutdown := request_shutdown h hroom
      uninitializable := request_uninitializable h hroom
      initialized := fun _ hp => request_initialize h hroom hp
      rejected := fun _ hp => request_rejected h hroom hp
      asked := fun _ _ hp => request_asked h hroom hp }

/-- Params to initialize that are sound, with options that are nested deep. -/
def deepOptions : Json :=
  .record [("processId", .null), ("capabilities", .record []), ("initializationOptions", nested 600)]

/-- A server with a trace gives no response to them, though it would accept the client. -/
theorem not_judges_deepOptions :
    (Params.initialization deepOptions).toOption.isSome ∧
      emitted (request recording (.int 1) "initialize" deepOptions (.start ())).events = [] ∧
      (request recording (.int 1) "initialize" deepOptions (.start ())).halt = some (.raised .tooDeep) ∧
      ¬ Judges recording (stateAfter recording [] (.start ())) (.int 1) deepOptions := by
  have hdepth : deepOptions.depth = 601 := by
    simp only [deepOptions, Json.record, List.map_cons, List.map_nil, Json.depth, Json.depthMembers, depth_nested]
    rfl
  have hroom : recording.hasRoom deepOptions.depth = false := by
    rw [hdepth]
    rfl
  refine ⟨by decide +kernel, ?_, ?_, fun hj => ?_⟩
  · rw [request_of_deep _ _ hroom]
    rfl
  · rw [request_of_deep _ _ hroom]
    rfl
  · have hs := hj.sends "shutdown" (by decide)
    rw [request_of_deep _ _ hroom] at hs
    exact hs.not_raised .tooDeep rfl

end Server

end LspEndpoint
