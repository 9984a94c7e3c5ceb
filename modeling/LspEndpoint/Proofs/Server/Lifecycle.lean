import LspEndpoint.Proofs.Server.Accounting

/-!
The lifecycle of a server as its past messages determine it. After any messages whatever, the end was announced
if one of them was a shutdown, a client was accepted if one of them was an initialization with sound params, and
the phase is what these two say together. A message that the trace has no room for ends the run where it is traced, and
it counts for nothing.
-/
namespace LspEndpoint

theorem Params.members?_eq_some {v : Json} {members : Json.Members} (h : members? v = some members) :
    v = .object members := by
  cases v with
  | object ms => exact congrArg Json.object (Option.some.inj h)
  | _ => cases h

/-- What sound params of an initialization say. -/
theorem Params.initialization_eq_ok {params : Json} {p : InitializeParams}
    (h : Params.initialization params = .ok p) :
    params.get "capabilities" = .object p.capabilities ∧ p.clientInfo = members? (params.get "clientInfo") := by
  simp only [Params.initialization, bind, Except.bind] at h
  split at h
  · cases h
  · split at h
    · cases h
    · cases hc : members? (params.get "capabilities") with
      | none =>
        rw [hc] at h
        cases h
      | some capabilities =>
        rw [hc] at h
        cases h
        exact ⟨members?_eq_some hc, rfl⟩

namespace Rpc

/-- The params of a request to initialize, if they are sound. -/
def initialization? (v : Json) : Option InitializeParams :=
  if method? v = some (Text.ofString "initialize") ∧ (id? v).isSome then
    (Params.initialization (paramsOf v)).toOption
  else none

def isInitialization (v : Json) : Bool := (initialization? v).isSome

/-- The client's description of itself, if it is an object. -/
def clientInfo? (v : Json) : Option Json.Members := Params.members? ((paramsOf v).get "clientInfo")

theorem initialization?_eq_some {v : Json} {p : InitializeParams} (h : initialization? v = some p) :
    method? v = some (Text.ofString "initialize") ∧ (∃ id, id? v = some id) ∧
      Params.initialization (paramsOf v) = .ok p := by
  unfold initialization? at h
  split at h
  · rename_i hv
    refine ⟨hv.1, Option.isSome_iff_exists.1 hv.2, ?_⟩
    cases hp : Params.initialization (paramsOf v) with
    | ok q =>
      rw [hp] at h
      exact congrArg Except.ok (Option.some.inj h)
    | error e =>
      rw [hp] at h
      cases h
  · cases h

theorem isInitialization_of_isShutdown {v : Json} (h : isShutdown v) : isInitialization v = false := by
  simp only [isShutdown, decide_eq_true_eq] at h
  have hne : Text.ofString "shutdown" ≠ Text.ofString "initialize" := by decide
  rw [isInitialization, initialization?, if_neg, Option.isSome_none]
  intro hi
  exact hne (Option.some.inj (h.1.symm.trans hi.1))

end Rpc

namespace Lifecycle

open Rpc

/-- What a message makes of the lifecycle. -/
def after (l : Lifecycle) (v : Json) : Lifecycle :=
  if isShutdown v then l.shutDown
  else match initialization? v with
    | some p => l.accept p
    | none => l

/-- What a request makes of the lifecycle. -/
def afterRequest (l : Lifecycle) (method : Text) (params : Json) : Lifecycle :=
  match RequestMethod.ofText? method with
  | some .shutdown => l.shutDown
  | some .initialization =>
    match Params.initialization params with
    | .ok p => l.accept p
    | .error _ => l
  | _ => l

theorem after_of_request (l : Lifecycle) {v id : Json} {method : Text} (hm : method? v = some method)
    (hi : id? v = some id) : l.after v = l.afterRequest method (paramsOf v) := by
  have hs : isShutdown v = decide (RequestMethod.ofText? method = some .shutdown) := by
    simp only [isShutdown, hm, hi, Option.some.injEq, RequestMethod.ofText?_eq_some, Option.isSome_some, and_true]
    rfl
  have hp : initialization? v =
      if RequestMethod.ofText? method = some .initialization then
        (Params.initialization (paramsOf v)).toOption
      else none := by
    simp only [initialization?, hm, hi, Option.some.injEq, RequestMethod.ofText?_eq_some, Option.isSome_some,
      and_true]
    rfl
  rw [after, afterRequest, hs, hp]
  cases RequestMethod.ofText? method with
  | none => rfl
  | some m =>
    cases m with
    | initialization => cases Params.initialization (paramsOf v) <;> rfl
    | _ => rfl

theorem after_of_no_request (l : Lifecycle) {v : Json} (h : method? v = none ∨ id? v = none) :
    l.after v = l := by
  have hs : isShutdown v = false := by
    rcases h with h | h <;> simp [isShutdown, h]
  have hp : initialization? v = none := by
    rcases h with h | h <;> simp [initialization?, h]
  rw [after, hs, hp]
  rfl

/-- The lifecycle is what these messages, from the first one on, make of it. -/
structure Reflects (l : Lifecycle) (ms : List Json) : Prop where
  isShuttingDown : l.isShuttingDown = ms.any isShutdown
  accepted : l.accepted = ms.any isInitialization
  phase : l.phase = .initialized ↔ l.accepted ∧ l.isShuttingDown = false
  clientInfo : l.clientInfo = (ms.filter isInitialization).getLast?.bind clientInfo?

theorem phase_accept {l : Lifecycle} (p : InitializeParams)
    (h : l.phase = .initialized ↔ l.accepted ∧ l.isShuttingDown = false) :
    (l.accept p).phase = .initialized ↔ (l.accept p).accepted ∧ (l.accept p).isShuttingDown = false := by
  rw [isShuttingDown_accept]
  obtain ⟨phase, accepted, info⟩ := l
  cases phase <;> simp [accept, isShuttingDown]

/-- One more message. -/
theorem Reflects.after {l : Lifecycle} {ms : List Json} (h : l.Reflects ms) (v : Json) :
    (l.after v).Reflects (ms ++ [v]) := by
  unfold Lifecycle.after
  split
  · rename_i hs
    have hi := isInitialization_of_isShutdown hs
    refine ⟨by simp [hs], by simp [hi, shutDown, h.accepted], ?_, by simp [hi, shutDown, h.clientInfo]⟩
    rw [isShuttingDown_shutDown]
    simp [shutDown]
  · rename_i hs
    have hs : isShutdown v = false := Bool.eq_false_iff.2 hs
    split
    · rename_i p hp
      have hi : isInitialization v := by rw [isInitialization, hp]; rfl
      obtain ⟨-, -, hok⟩ := initialization?_eq_some hp
      have hc : p.clientInfo = clientInfo? v := (Params.initialization_eq_ok hok).2
      refine ⟨?_, ?_, phase_accept p h.phase, ?_⟩
      · simp [isShuttingDown_accept, h.isShuttingDown, hs]
      · simp [accept, hi]
      · simp [accept, hi, hc]
    · rename_i hp
      have hi : isInitialization v = false := by rw [isInitialization, hp]; rfl
      exact ⟨by simp [h.isShuttingDown, hs], by simp [h.accepted, hi], h.phase, by simp [h.clientInfo, hi]⟩

theorem Reflects.exitCode {l : Lifecycle} {ms : List Json} (h : l.Reflects ms) :
    l.exitCode = if ms.any isShutdown then 0 else 1 := by
  rw [Lifecycle.exitCode, h.isShuttingDown]

end Lifecycle

namespace Server

open Rpc

variable {σ : Type}

section Handlers

variable (setup : Setup σ) (params : Json) (s : State σ)

theorem handled_lifecycle (m : RequestMethod) :
    (handled setup m params s).state.lifecycle = s.lifecycle.afterRequest (Text.ofString m.method) params := by
  rw [Lifecycle.afterRequest, RequestMethod.ofText?_method]
  cases m with
  | initialization =>
    simp only [handled, initialized]
    cases Params.initialization params <;> rfl
  | shutdown => rfl
  | executeCommand =>
    simp only [handled, executed]
    split <;> rfl
  | document operation =>
    simp only [handled, queried]
    split <;> rfl

theorem replied_lifecycle (method : Text) :
    (replied setup method params s).1.state.lifecycle = s.lifecycle.afterRequest method params := by
  cases hm : RequestMethod.ofText? method with
  | none =>
    rw [replied_of_unknown hm, Lifecycle.afterRequest, hm]
    rfl
  | some m =>
    rw [(replied_conveys hm setup params s).state, handled_lifecycle, ← RequestMethod.ofText?_eq_some.1 hm]

end Handlers

section Messages

variable (setup : Setup σ) (v : Json) {s : State σ} (h : s.traceClosed = false)

include h

theorem dispatched_lifecycle :
    (dispatched setup v s).state.lifecycle = if setup.fits v then s.lifecycle.after v else s.lifecycle := by
  cases hf : setup.fits v with
  | false =>
    rw [dispatched_of_misfit hf]
    rfl
  | true =>
    rw [if_pos rfl]
    cases hm : method? v with
    | none => rw [dispatched_of_invalid hm, emit_state, s.lifecycle.after_of_no_request (.inl hm)]
    | some method =>
      cases hi : id? v with
      | some id =>
        have ha := request_attended setup id method (.inr h) (Setup.hasRoom_of_fits hf hm)
        rw [dispatched_of_request hm hi, ha.state.lifecycle, replied_lifecycle, (begun_agrees ..).lifecycle,
          s.lifecycle.after_of_request hm hi]
      | none =>
        rw [dispatched_of_notification hm hi, notification_begun (.inr h) (Setup.hasRoom_of_fits hf hm),
          heard_lifecycle, (traced_bides ..).agrees.lifecycle, s.lifecycle.after_of_no_request (.inr hi)]

end Messages

section Runs

/-- The state after all of these messages, also those that come after a stop. -/
def stateAfter (setup : Setup σ) : List Json → State σ → State σ
  | [], s => s
  | v :: rest, s => stateAfter setup rest (dispatched setup v s).state

/-- What happens while all of these messages are dispatched. -/
def eventsDuring (setup : Setup σ) : List Json → State σ → List Event
  | [], _ => []
  | v :: rest, s => (dispatched setup v s).events ++ eventsDuring setup rest (dispatched setup v s).state

/-- The messages that are dispatched until one of them stops the server. -/
def reached (setup : Setup σ) : List Json → State σ → List Json
  | [], _ => []
  | v :: rest, s =>
    v :: match (dispatched setup v s).halt with
      | none => reached setup rest (dispatched setup v s).state
      | some _ => []

theorem each_reached (setup : Setup σ) (ms : List Json) (s : State σ) :
    (Step.each (dispatched setup) ms s).state = stateAfter setup (reached setup ms s) s ∧
      (Step.each (dispatched setup) ms s).events = eventsDuring setup (reached setup ms s) s := by
  induction ms generalizing s with
  | nil => exact ⟨rfl, rfl⟩
  | cons v rest ih =>
    rw [Step.each, reached]
    cases hh : (dispatched setup v s).halt with
    | none =>
      rw [Step.andThen_of_none hh]
      exact ⟨(ih _).1, congrArg _ (ih _).2⟩
    | some halt =>
      rw [Step.andThen_of_some hh]
      exact ⟨rfl, (List.append_nil _).symm⟩

/-- A message that does not fit is the last that a run dispatches. -/
theorem reached_fits (setup : Setup σ) (ms : List Json) (s : State σ) :
    (reached setup ms s).Pairwise fun v _ => setup.fits v := by
  induction ms generalizing s with
  | nil => exact .nil
  | cons v rest ih =>
    rw [reached, List.pairwise_cons]
    cases hh : (dispatched setup v s).halt with
    | some halt => exact ⟨fun _ hw => absurd hw List.not_mem_nil, .nil⟩
    | none =>
      exact ⟨fun _ _ => fits_of_goesOn hh, ih _⟩

theorem stateAfter_traceClosed (setup : Setup σ) (ms : List Json) (s : State σ) :
    (stateAfter setup ms s).traceClosed = s.traceClosed := by
  induction ms generalizing s with
  | nil => rfl
  | cons v rest ih => exact (ih _).trans (dispatched_traceClosed setup v s)

theorem each_traceClosed (setup : Setup σ) (ms : List Json) (s : State σ) :
    (Step.each (dispatched setup) ms s).state.traceClosed = s.traceClosed := by
  rw [(each_reached setup ms s).1, stateAfter_traceClosed]

/-- A run never closes the trace. -/
theorem run_traceClosed (setup : Setup σ) (host : σ) (vs : List Json) :
    (run setup vs (.start host)).state.traceClosed = false := by
  rw [run_eq_each, each_traceClosed]
  rfl

/-- A client that is accepted, announces the end before it is accepted once more without a name, and leaves. -/
def restlessClient : Json :=
  let request (method : String) (clientInfo : Json) : Json :=
    .record [("id", .int 1), ("method", Json.string method),
      ("params", .record [("processId", .null), ("capabilities", .record []), ("clientInfo", clientInfo)])]
  .array [request "initialize" (.record [("name", Json.string "vi")]), request "shutdown" .null,
    request "initialize" .null, .record [("method", Json.string "exit")]]

example : (run bare [restlessClient] (.start ())).state.lifecycle = ⟨.shuttingDown, true, none⟩ ∧
    exits (run bare [restlessClient] (.start ())).events = [0] := by
  decide

end Runs

end Server

end LspEndpoint
