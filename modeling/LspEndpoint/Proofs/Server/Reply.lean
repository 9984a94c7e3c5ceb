import LspEndpoint.Proofs.Framing.Response
import LspEndpoint.Proofs.Json.Decoded
import LspEndpoint.Proofs.Params.Wording
import LspEndpoint.Proofs.Server.Delivery

/-!
The replies of a server without a language. Beside the id, all that they take over from a message is the name of a
method that is unknown, and all that they take over from the settings is the server's own description: every other reply
is a value without surrogates and doubles, or an error in ASCII.
-/
namespace LspEndpoint

namespace Rpc

/-- A reply that takes nothing over: a value without surrogates and doubles, or an error in ASCII. -/
inductive Reply.IsPlain : Reply → Prop
  | result {v : Json} (isEncodable : v.isEncodable) (hasNoDouble : v.hasDouble = false) : IsPlain (.result v)
  | error (code : Int) {message : Text} (isAscii : message.isPrintableAscii) : IsPlain (.error (.plain code message))

end Rpc

theorem Operation.isPlain_nothing (operation : Operation) : (Rpc.Reply.result operation.nothing).IsPlain := by
  cases operation <;> exact .result (by decide) (by decide)

theorem Command.isPlain_result {t : Text} (h : t.isScalar) : (Rpc.Reply.result (Command.result (.text t))).IsPlain := by
  have hk : (Text.ofString "result").isScalar := by decide
  refine .result ?_ rfl
  simp only [Command.result, Json.record, List.map_cons, List.map_nil, Json.isEncodable, Json.membersEncodable, hk, h,
    Bool.and_self]

namespace Server

open Rpc

variable {σ : Type}

theorem isPlain_refusal {e : Params.Error} (h : e.IsLegible) : (refusal e).IsPlain := .error invalidParams h

theorem isPlain_internalError {method : Text} (h : method.isPrintableAscii) : (internalError method).IsPlain := by
  have hw : Text.isPrintableAscii "internal error in method " := by decide
  refine .error Rpc.internalError ?_
  rw [Text.isPrintableAscii_append, hw, h]
  rfl

/-- A runner of programs that gives what they printed, as a text without surrogates, or a fault. -/
def Prints (launch : σ → List Text → Answer × σ) : Prop :=
  ∀ host argv, ∃ r, (launch host argv).1 = .ofPrinted r ∧ ∀ t, r = .ok t → t.isScalar

/-- There is nothing to tell about any document, and what programs print is text. -/
structure Setup.IsMute (setup : Setup σ) : Prop where
  ask : setup.ask = Backend.reading Backend.empty
  prints : Prints setup.launch

theorem Setup.IsMute.unfailing {setup : Setup σ} (h : setup.IsMute) : setup.unfailing.IsMute := ⟨h.ask, h.prints⟩

/-- How a request is replied to: its method is unknown, a client that is accepted is welcomed, or the reply is plain. -/
inductive Replies (info : Except Unwritable Json) (method : Text) (params : Json) : Reply → Prop
  | unknown (hm : RequestMethod.ofText? method = none) : Replies info method params (unknownMethod method)
  | welcomed {p : InitializeParams} (hm : RequestMethod.ofText? method = some .initialization)
      (hp : Params.initialization params = .ok p) : Replies info method params (welcomed info p)
  | plain {m : RequestMethod} {r : Reply} (hm : RequestMethod.ofText? method = some m)
      (hp : m = .initialization → ∃ e, Params.initialization params = .error e) (hr : r.IsPlain) :
      Replies info method params r

section Handlers

variable {setup : Setup σ} (hs : setup.IsMute) (params : Json) (s : State σ)

/-- An outcome that is answered plainly: a reply that takes nothing over, or a fault. -/
def Outcome.IsPlain : Outcome → Prop
  | .reply r => r.IsPlain
  | .fault _ => True

include hs

theorem isPlain_executed : (executed setup params s).outcome.IsPlain := by
  unfold executed
  split
  · rename_i e he
    exact isPlain_refusal (Command.isLegible_path he)
  · trivial
  · rename_i path _
    obtain ⟨r, hr, ht⟩ := hs.prints s.host (Command.argv setup.openCommand path)
    dsimp only
    rw [hr]
    cases r with
    | ok t => exact Command.isPlain_result (ht t rfl)
    | error f => trivial

theorem isPlain_queried (operation : Operation) : (queried setup operation params s).outcome.IsPlain := by
  unfold queried
  split
  · rename_i e he
    exact isPlain_refusal (Params.isLegible_decode operation params e he)
  · rename_i arguments _
    change (outcomeOf (setup.ask s.host s.store ⟨operation, arguments⟩).1).IsPlain
    rw [hs.ask]
    exact operation.isPlain_nothing

theorem replied_replies (method : Text) :
    Replies setup.serverInfo method params (replied setup method params s).2 := by
  have hplain {m : RequestMethod} (hm : RequestMethod.ofText? method = some m)
      (hp : m = .initialization → ∃ e, Params.initialization params = .error e)
      (h : (handled setup m params s).outcome.IsPlain) :
      Replies setup.serverInfo method params (replied setup method params s).2 := by
    refine .plain hm hp ?_
    rw [(replied_conveys hm setup params s).reply]
    cases ho : (handled setup m params s).outcome with
    | reply r =>
      rw [ho] at h
      exact h
    | fault f =>
      rw [RequestMethod.ofText?_eq_some.1 hm]
      exact isPlain_internalError m.isPrintableAscii_method
  cases hm : RequestMethod.ofText? method with
  | none =>
    rw [replied_of_unknown hm]
    exact .unknown hm
  | some m =>
    cases m with
    | initialization =>
      cases hp : Params.initialization params with
      | error e =>
        refine hplain hm (fun _ => ⟨e, hp⟩) ?_
        simp only [handled, initialized, hp]
        exact isPlain_refusal (Params.isLegible_initialization params e hp)
      | ok p =>
        have hw : (replied setup method params s).2 = welcomed setup.serverInfo p := by
          rw [(replied_conveys hm setup params s).reply]
          simp only [handled, initialized, hp]
          rfl
        exact hw ▸ .welcomed hm hp
    | shutdown => exact hplain hm (fun h => by cases h) (.result rfl rfl)
    | executeCommand => exact hplain hm (fun h => by cases h) (isPlain_executed hs params s)
    | document operation => exact hplain hm (fun h => by cases h) (isPlain_queried hs params s operation)

end Handlers

section Messages

theorem isInitialization_eq {m id : Json} {method : Text} (hm : method? m = some method) (hi : id? m = some id) :
    isInitialization m = (decide (RequestMethod.ofText? method = some .initialization) &&
      (Params.initialization (paramsOf m)).toOption.isSome) := by
  have hiff : RequestMethod.ofText? method = some .initialization ↔ method = Text.ofString "initialize" :=
    RequestMethod.ofText?_eq_some
  simp only [isInitialization, initialization?, hm, hi, Option.some.injEq, Option.isSome_some, and_true, hiff]
  split <;> simp [*]

/-- What a message is answered: what is no request is refused, and a request gets a reply. -/
inductive Answers (info : Except Unwritable Json) (m : Json) : Response → Prop
  | invalid (hm : method? m = none) : Answers info m (.invalid ((id? m).getD .null))
  | reply {method : Text} {id : Json} {r : Reply} (hm : method? m = some method) (hi : id? m = some id)
      (hr : Replies info method (paramsOf m) r) : Answers info m ⟨id, r⟩

/-- The server's description of itself can be sent. -/
def isPresentable : Except Unwritable Json → Bool
  | .ok info => info.isEncodable
  | .error _ => false

/-- Whatever a message is answered can be sent: no surrogate stands in its id, nor in the name of the method if that
shows in the answer, and a client that is accepted can be told of the server. -/
def isAnswerable (info : Except Unwritable Json) (m : Json) : Bool :=
  match method? m, id? m with
  | some _, none => true
  | none, id => (id.getD .null).isEncodable
  | some method, some id => id.isEncodable && (method.isScalar && (!isInitialization m || isPresentable info))

theorem isAnswerable_of_request (info : Except Unwritable Json) {m id : Json} {method : Text}
    (hm : method? m = some method) (hi : id? m = some id) :
    isAnswerable info m = (id.isEncodable && (method.isScalar && (!isInitialization m || isPresentable info))) := by
  rw [isAnswerable, hm, hi]

theorem isAnswerable_of_notification (info : Except Unwritable Json) {m : Json} (hm : (method? m).isSome)
    (hi : id? m = none) : isAnswerable info m := by
  obtain ⟨method, hm⟩ := Option.isSome_iff_exists.1 hm
  rw [isAnswerable, hm, hi]

theorem isEncodable_welcomed (info : Except Unwritable Json) (p : InitializeParams) (id : Json) :
    (⟨id, welcomed info p⟩ : Response).isEncodable = (id.isEncodable && isPresentable info) := by
  cases info with
  | error e => exact (Bool.and_false _).symm
  | ok info =>
    have hk : (Text.ofString "capabilities").isScalar ∧ (Text.ofString "serverInfo").isScalar := by decide
    have hc : (serverCapabilities (.object p.capabilities)).isEncodable := by
      unfold serverCapabilities renameProvider
      split <;> decide
    simp only [welcomed, Response.isEncodable, Lifecycle.welcome, Json.record, List.map_cons, List.map_nil,
      Json.isEncodable, Json.membersEncodable, hk, hc, Bool.true_and, Bool.and_true, isPresentable]

theorem Answers.isEncodable_eq {info : Except Unwritable Json} {m : Json} {r : Response} (h : Answers info m r) :
    r.isEncodable = isAnswerable info m := by
  have hscalar {method : Text} {k : RequestMethod} (hk : RequestMethod.ofText? method = some k) : method.isScalar := by
    rw [RequestMethod.ofText?_eq_some.1 hk]
    exact Text.isScalar_of_isPrintableAscii k.isPrintableAscii_method
  cases h with
  | invalid hm =>
    have hw : (Text.ofString "The JSON sent is not a valid request object.").isScalar := by decide
    simp only [isAnswerable, hm, Response.invalid, Response.ofError, Error.plain, Response.isEncodable, hw,
      Json.isEncodable, Bool.and_true]
  | reply hm hi hr =>
    rw [isAnswerable_of_request info hm hi, isInitialization_eq hm hi]
    cases hr with
    | unknown hu =>
      have hw : Text.isScalar "The method '" ∧ Text.isScalar "' was not found" := by decide
      simp [hu, unknownMethod, Error.plain, Response.isEncodable, hw, Json.isEncodable, Text.isScalar_append]
    | welcomed hk hp => simp [isEncodable_welcomed, hscalar hk, hk, hp, Except.toOption]
    | @plain k r hk hp hr =>
      have hn : (decide (some k = some RequestMethod.initialization) &&
          (Params.initialization (paramsOf m)).toOption.isSome) = false := by
        rw [Bool.and_eq_false_iff, decide_eq_false_iff_not, Option.some.injEq]
        refine Decidable.or_iff_not_imp_left.2 fun hki => ?_
        obtain ⟨e, he⟩ := hp (Decidable.not_not.1 hki)
        rw [he]
        rfl
      rw [hk, hn, hscalar hk]
      cases hr with
      | result he hd => simp [Response.isEncodable, he]
      | error code ha =>
        simp [Response.isEncodable, Error.plain, Text.isScalar_of_isPrintableAscii ha, Json.isEncodable]

end Messages

section Runs

variable {setup : Setup σ} (hs : setup.IsMute)

include hs

theorem Responds.answers {s : State σ} {m : Json} {r : Response} (h : Responds setup s m r) :
    Answers setup.serverInfo m r := by
  cases h with
  | refusal hm => exact .invalid hm
  | response hm hi => exact .reply hm hi (replied_replies hs _ _ _)

/-- What is emitted answers the message, and can be delivered. -/
theorem answers_of_mem_emitted {m : Json} {s : State σ} (h : s.traceClosed = false) {r : Response}
    (hr : r ∈ emitted (dispatched setup m s).events) : Answers setup.serverInfo m r ∧ setup.deliver r = none := by
  have hsilent (he : emitted (dispatched setup m s).events = []) : r ∉ emitted (dispatched setup m s).events := by
    rw [he]
    exact List.not_mem_nil
  cases dispatched_ends (.inr h) m with
  | raised raises stops => exact absurd hr (hsilent stops.emitted)
  | answered responds isOther sends =>
    obtain ⟨rfl, hd⟩ := sends.eq_of_mem hr
    exact ⟨responds.answers hs, hd⟩
  | unanswered owes isOther silent => exact absurd hr (hsilent silent)
  | exit owes exits silent => exact absurd hr (hsilent silent)

theorem exists_answers_of_mem_emitted {ms : List Json} {s : State σ} (h : s.traceClosed = false) {r : Response}
    (hr : r ∈ emitted (Step.each (dispatched setup) ms s).events) :
    ∃ m ∈ ms, Answers setup.serverInfo m r ∧ setup.deliver r = none := by
  induction ms generalizing s with
  | nil => exact absurd hr List.not_mem_nil
  | cons m rest ih =>
    rw [Step.each] at hr
    cases hh : (dispatched setup m s).halt with
    | some halt =>
      rw [Step.andThen_of_some hh] at hr
      exact ⟨m, List.mem_cons_self .., answers_of_mem_emitted hs h hr⟩
    | none =>
      rw [Step.andThen_of_none hh, emitted_append, List.mem_append] at hr
      rcases hr with hr | hr
      · exact ⟨m, List.mem_cons_self .., answers_of_mem_emitted hs h hr⟩
      · obtain ⟨m', hm, ha⟩ := ih ((dispatched_traceClosed setup m s).trans h) hr
        exact ⟨m', List.mem_cons_of_mem _ hm, ha⟩

/-- What a server with a way out that takes everything does with a message: it stops there and emits nothing, or it goes
on, and all that it emits can be sent exactly if the message can be answered. -/
theorem dispatched_unfailing (hl : ∀ host code, (setup.leave host code).1) (m : Json) {s : State σ}
    (h : s.traceClosed = false) :
    ((∃ halt, (dispatched setup.unfailing m s).halt = some halt) ∧
        emitted (dispatched setup.unfailing m s).events = []) ∨
      (dispatched setup.unfailing m s).halt = none ∧
        ((∀ r ∈ emitted (dispatched setup.unfailing m s).events, r.isEncodable) ↔
          isAnswerable setup.serverInfo m) := by
  have hopen : IsOpen setup.unfailing s := .inr h
  cases dispatched_ends hopen m with
  | raised raises stops => exact .inl ⟨⟨_, stops.halt⟩, stops.emitted⟩
  | answered responds isOther sends =>
    obtain ⟨he, hh⟩ := sends.of_delivered rfl
    rw [he, List.forall_mem_singleton, (responds.answers hs.unfailing).isEncodable_eq]
    exact .inr ⟨hh, .rfl⟩
  | unanswered owes isOther silent goesOn =>
    obtain ⟨hm, hi⟩ := isNotification_of_owes owes
    rw [silent]
    exact .inr ⟨goesOn, iff_of_true (fun _ hr => absurd hr List.not_mem_nil) (isAnswerable_of_notification _ hm hi)⟩
  | exit owes exits silent ends => exact .inl ⟨⟨_, ends.trans (if_pos (hl ..))⟩, silent⟩

/-- All that the server has to say can be sent exactly if each message that it heeds can be answered. -/
theorem each_isEncodable (hl : ∀ host code, (setup.leave host code).1) (ms : List Json) {s : State σ}
    (h : s.traceClosed = false) :
    (∀ r ∈ emitted (Step.each (dispatched setup.unfailing) ms s).events, r.isEncodable) ↔
      ∀ m ∈ heeded setup.unfailing ms s, isAnswerable setup.serverInfo m := by
  induction ms generalizing s with
  | nil => exact ⟨fun _ _ hm => absurd hm List.not_mem_nil, fun _ _ hr => absurd hr List.not_mem_nil⟩
  | cons m rest ih =>
    rw [Step.each]
    rcases dispatched_unfailing hs hl m h with ⟨⟨halt, hh⟩, he⟩ | ⟨hh, ha⟩
    · rw [Step.andThen_of_some hh, he, heeded_of_some hh]
      exact iff_of_true (fun _ hr => absurd hr List.not_mem_nil) fun _ hm => absurd hm List.not_mem_nil
    · rw [Step.andThen_of_none hh, emitted_append, heeded_of_none hh, List.forall_mem_append, List.forall_mem_cons, ha,
        ih ((dispatched_traceClosed setup.unfailing m s).trans h)]

/-- A message that is heeded and cannot be answered stops a server that hands its responses to the framing. -/
theorem each_undelivered (hl : ∀ host code, (setup.leave host code).1) (hd : setup.deliver = deliverFramed)
    (ms : List Json) {s : State σ} (h : s.traceClosed = false)
    (hn : ¬ ∀ m ∈ heeded setup.unfailing ms s, isAnswerable setup.serverInfo m) :
    ∃ e, (Step.each (dispatched setup) ms s).halt = some (.undelivered e) := by
  induction ms generalizing s with
  | nil => exact (hn fun _ hm => absurd hm List.not_mem_nil).elim
  | cons m rest ih =>
    rw [Step.each]
    rcases dispatched_unfailing hs hl m h with ⟨⟨halt, hh⟩, -⟩ | ⟨hh, ha⟩
    · rw [heeded_of_some hh] at hn
      exact (hn fun _ hm => absurd hm List.not_mem_nil).elim
    · by_cases hm : isAnswerable setup.serverInfo m
      · have hsame : dispatched setup m s = dispatched setup.unfailing m s :=
          message_unfailing fun r hr => hd ▸ deliverFramed_eq_none.2 (ha.2 hm r hr)
        rw [heeded_of_none hh, List.forall_mem_cons] at hn
        rw [hsame, Step.andThen_of_none hh]
        exact ih ((dispatched_traceClosed setup.unfailing m s).trans h) fun hrest => hn ⟨hm, hrest⟩
      · obtain ⟨r, hr, he⟩ : ∃ r ∈ emitted (dispatched setup.unfailing m s).events, ¬ r.isEncodable := by
          simpa using mt ha.1 hm
        cases hdeliver : setup.deliver r with
        | none =>
          rw [hd] at hdeliver
          exact absurd (deliverFramed_eq_none.1 hdeliver) he
        | some e =>
          have hhalt : (dispatched setup m s).halt = some (.undelivered e) := message_undelivered hr hdeliver
          exact ⟨e, by rw [Step.andThen_of_some hhalt, hhalt]⟩

end Runs

end Server

end LspEndpoint
