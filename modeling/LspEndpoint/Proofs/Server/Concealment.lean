import LspEndpoint.Proofs.Server.Accounting

/-!
Faults are concealed. Two servers whose backends and programs differ only in what went wrong, where something
did, do the same thing for ever after, if what went wrong can be shown in both or in neither; only the log tells them
apart. A fault that cannot be shown gives itself away, for it stops the server.
-/
namespace LspEndpoint

/-- Equal answers, and any two faults that can both be shown, or neither. -/
inductive Answer.Alike : Answer → Answer → Prop
  | same (a : Answer) : Alike a a
  | failed {f f' : Fault} (shown : f.isShown = f'.isShown) : Alike (.failed f) (.failed f')

theorem Answer.Alike.map {a a' : Answer} (h : a.Alike a') (f : Json → Json) : (a.map f).Alike (a'.map f) := by
  cases h with
  | same a => exact .same _
  | failed shown => exact .failed shown

namespace Server

variable {σ τ : Type}

section Surroundings

variable (R : σ → τ → Prop)

/-- There is no trace, or there are two that have room for the same, whose lines are both taken or both not. -/
inductive TracingAlike : Option (Tracing σ) → Option (Tracing τ) → Prop
  | none : TracingAlike none none
  | some {t : Tracing σ} {u : Tracing τ} (limit : t.limit = u.limit) (depth : t.depth = u.depth)
      (time : t.time = u.time)
      (write : ∀ host host' line, R host host' →
        (t.write host line).1.isNone = (u.write host' line).1.isNone ∧ R (t.write host line).2 (u.write host' line).2) :
      TracingAlike (some t) (some u)

/-- Surroundings that behave alike call by call: related hosts stay related, and what they answer differs in
faults only. -/
structure Setup.Alike (a : Setup σ) (b : Setup τ) : Prop where
  serverInfo : a.serverInfo = b.serverInfo
  openCommand : a.openCommand = b.openCommand
  ask : ∀ host host' store q, R host host' →
    (a.ask host store q).1.Alike (b.ask host' store q).1 ∧
      (a.ask host store q).2.1 = (b.ask host' store q).2.1 ∧
        R (a.ask host store q).2.2 (b.ask host' store q).2.2
  launch : ∀ host host' argv, R host host' →
    (a.launch host argv).1.Alike (b.launch host' argv).1 ∧ R (a.launch host argv).2 (b.launch host' argv).2
  tracing : TracingAlike R a.tracing b.tracing
  clock : a.clock = b.clock
  deliver : a.deliver = b.deliver
  leave : ∀ host host' code, R host host' →
    (a.leave host code).1 = (b.leave host' code).1 ∧ R (a.leave host code).2 (b.leave host' code).2

/-- States that differ in their hosts only. -/
structure State.Alike (s : State σ) (s' : State τ) : Prop where
  lifecycle : s.lifecycle = s'.lifecycle
  store : s.store = s'.store
  host : R s.host s'.host
  clockReads : s.clockReads = s'.clockReads
  linesTried : s.linesTried = s'.linesTried
  traceClosed : s.traceClosed = s'.traceClosed

/-- An event without what the log says. -/
def Event.muted : Event → Event
  | .logged _ => .logged []
  | e => e

/-- Equal ends, and any two that are raised. -/
inductive HaltAlike : Option Halt → Option Halt → Prop
  | same (halt : Option Halt) : HaltAlike halt halt
  | raised (r r' : Raised) : HaltAlike (some (.raised r)) (some (.raised r'))

/-- Steps that differ in what the log says only, and in what is raised. -/
structure Step.Alike (x : Step σ) (y : Step τ) : Prop where
  state : State.Alike R x.state y.state
  events : x.events.map Event.muted = y.events.map Event.muted
  halt : HaltAlike x.halt y.halt

inductive OutcomeAlike : Outcome → Outcome → Prop
  | reply (r : Rpc.Reply) : OutcomeAlike (.reply r) (.reply r)
  | fault {f f' : Fault} (shown : f.isShown = f'.isShown) : OutcomeAlike (.fault f) (.fault f')

structure Handled.Alike (x : Handled σ) (y : Handled τ) : Prop where
  state : State.Alike R x.state y.state
  events : x.events.map Event.muted = y.events.map Event.muted
  outcome : OutcomeAlike x.outcome y.outcome

end Surroundings

variable {R : σ → τ → Prop}

namespace Step

theorem Alike.andThen {x : Step σ} {y : Step τ} (h : x.Alike R y) {f : State σ → Step σ}
    {g : State τ → Step τ} (hfg : ∀ s s', State.Alike R s s' → (f s).Alike R (g s')) :
    (x.andThen f).Alike R (y.andThen g) := by
  obtain ⟨s, events, halt⟩ := x
  obtain ⟨s', events', halt'⟩ := y
  have hhalt : HaltAlike halt halt' := h.halt
  cases hhalt with
  | raised r r' => exact h
  | same halt =>
    cases halt with
    | some halt => exact h
    | none =>
      obtain ⟨hstate, hevents, hhalt⟩ := hfg s s' h.state
      exact ⟨hstate, by simp only [Step.andThen, List.map_append, h.events, hevents], hhalt⟩

theorem each_alike {α : Type} {f : α → State σ → Step σ} {g : α → State τ → Step τ}
    (hfg : ∀ a s s', State.Alike R s s' → (f a s).Alike R (g a s')) (as : List α) {s : State σ}
    {s' : State τ} (hs : State.Alike R s s') : (each f as s).Alike R (each g as s') := by
  induction as generalizing s s' with
  | nil => exact ⟨hs, rfl, .same _⟩
  | cons a rest ih => exact (hfg a s s' hs).andThen fun _ _ => ih

end Step

section Routing

variable {a : Setup σ} {b : Setup τ} {s : State σ} {s' : State τ}

theorem traced_alike (h : a.Alike R b) (hs : State.Alike R s s') (e : Trace.Event) :
    (traced a e s).Alike R (traced b e s') := by
  have ht := h.tracing
  unfold traced
  generalize a.tracing = t, b.tracing = u at ht ⊢
  cases ht with
  | none => exact ⟨hs, rfl, .same _⟩
  | @some t u limit depth time write =>
    obtain ⟨htaken, hhost⟩ := write _ _ (e.line u.limit (u.time s'.linesTried)) hs.host
    simp only [hs.traceClosed, hs.linesTried, limit, depth, time]
    split
    · exact ⟨hs, rfl, .same _⟩
    · split
      · exact ⟨hs, rfl, .same _⟩
      · have hstate : State.Alike R
            { s with
              host := (t.write s.host (e.line u.limit (u.time s'.linesTried))).2
              linesTried := s'.linesTried + 1 }
            { s' with
              host := (u.write s'.host (e.line u.limit (u.time s'.linesTried))).2
              linesTried := s'.linesTried + 1 } :=
          { hs with host := hhost, linesTried := rfl }
        rw [hs.traceClosed] at hstate
        split <;> rename_i hx <;> split <;> rename_i hy
        · exact ⟨hstate, rfl, .same _⟩
        · cases (congrArg Option.isNone hx).symm.trans (htaken.trans (congrArg Option.isNone hy))
        · cases (congrArg Option.isNone hx).symm.trans (htaken.trans (congrArg Option.isNone hy))
        · exact ⟨hstate, rfl, .same _⟩

theorem tick_alike (hs : State.Alike R s s') : State.Alike R (tick s) (tick s') :=
  ⟨hs.lifecycle, hs.store, hs.host, congrArg (· + 1) hs.clockReads, hs.linesTried, hs.traceClosed⟩

theorem tracedEnd_alike (h : a.Alike R b) (hs : State.Alike R s s') (start : Binary64) (r : Rpc.Response) :
    (tracedEnd a start r s).Alike R (tracedEnd b start r s') := by
  have ht := h.tracing
  unfold tracedEnd
  generalize a.tracing = t, b.tracing = u at ht ⊢
  cases ht with
  | none => exact ⟨hs, rfl, .same _⟩
  | some _ _ _ _ =>
    cases r.status? with
    | none => exact ⟨hs, rfl, .same _⟩
    | some status =>
      rw [h.clock, hs.clockReads]
      exact traced_alike h (tick_alike hs) _

theorem emit_alike (h : a.Alike R b) (hs : State.Alike R s s') (r : Rpc.Response) :
    (emit a r s).Alike R (emit b r s') := by
  unfold emit
  rw [h.deliver]
  cases b.deliver r with
  | none => exact ⟨hs, rfl, .same _⟩
  | some e => exact ⟨hs, rfl, .same _⟩

/-- Faults are noted in both, or stop both. -/
theorem note_alike {f f' : Fault} (h : f.isShown = f'.isShown) (line line' : Text → Text) (hs : State.Alike R s s') :
    (note line f s).Alike R (note line' f' s') := by
  unfold Fault.isShown Fault.raised? at h
  unfold note
  cases hf : f.display <;> cases hf' : f'.display <;>
    simp only [hf, hf', Option.isNone_none, Option.isNone_some, reduceCtorEq] at h
  · exact ⟨hs, rfl, .raised _ _⟩
  · exact ⟨hs, rfl, .same _⟩

theorem Handled.refused_alike (hs : State.Alike R s s') (e : Params.Error) :
    (Handled.refused s e).Alike R (Handled.refused s' e) :=
  ⟨hs, rfl, .reply _⟩

theorem outcomeOf_alike {x y : Answer} (h : x.Alike y) : OutcomeAlike (outcomeOf x) (outcomeOf y) := by
  cases h with
  | same x =>
    cases x with
    | result v => exact .reply _
    | refused e => exact .reply _
    | failed f => exact .fault rfl
  | failed shown => exact .fault shown

theorem initialized_alike (h : a.Alike R b) (params : Json) (hs : State.Alike R s s') :
    (initialized a params s).Alike R (initialized b params s') := by
  unfold initialized
  split
  · exact Handled.refused_alike hs _
  · rw [h.serverInfo]
    exact ⟨{ hs with lifecycle := by rw [hs.lifecycle] }, rfl, .reply _⟩

theorem executed_alike (h : a.Alike R b) (params : Json) (hs : State.Alike R s s') :
    (executed a params s).Alike R (executed b params s') := by
  unfold executed
  split
  · exact Handled.refused_alike hs _
  · exact ⟨hs, rfl, .fault rfl⟩
  · rw [h.openCommand]
    obtain ⟨hanswer, hhost⟩ := h.launch _ _ (Command.argv b.openCommand _) hs.host
    exact ⟨{ hs with host := hhost }, rfl, outcomeOf_alike (hanswer.map _)⟩

theorem queried_alike (h : a.Alike R b) (operation : Operation) (params : Json) (hs : State.Alike R s s') :
    (queried a operation params s).Alike R (queried b operation params s') := by
  unfold queried
  split
  · exact Handled.refused_alike hs _
  · rw [hs.store]
    obtain ⟨hanswer, hstore, hhost⟩ := h.ask _ _ s'.store ⟨operation, _⟩ hs.host
    exact ⟨{ hs with store := hstore, host := hhost }, rfl, outcomeOf_alike hanswer⟩

theorem handled_alike (h : a.Alike R b) (m : RequestMethod) (params : Json) (hs : State.Alike R s s') :
    (handled a m params s).Alike R (handled b m params s') := by
  cases m with
  | initialization => exact initialized_alike h params hs
  | shutdown => exact ⟨{ hs with lifecycle := congrArg Lifecycle.shutDown hs.lifecycle }, rfl, .reply _⟩
  | executeCommand => exact executed_alike h params hs
  | document operation => exact queried_alike h operation params hs

/-- A fault is answered by its method alone. -/
theorem replied_alike (h : a.Alike R b) (method : Text) (params : Json) (hs : State.Alike R s s') :
    (replied a method params s).1.Alike R (replied b method params s').1 ∧
      (replied a method params s).2 = (replied b method params s').2 := by
  unfold replied
  cases RequestMethod.ofText? method with
  | none => exact ⟨⟨hs, rfl, .same _⟩, rfl⟩
  | some m =>
    obtain ⟨state, events, outcome⟩ := handled_alike h m params hs
    dsimp only
    generalize handled a m params s = x, handled b m params s' = y at state events outcome ⊢
    have hstep : Step.Alike R (⟨x.state, x.events, none⟩ : Step σ) (⟨y.state, y.events, none⟩ : Step τ) :=
      ⟨state, events, .same _⟩
    generalize x.outcome = o, y.outcome = o' at outcome ⊢
    cases outcome with
    | reply r => exact ⟨hstep, rfl⟩
    | fault shown => exact ⟨hstep.andThen fun _ _ hu => note_alike shown _ _ hu, rfl⟩

theorem request_alike (h : a.Alike R b) (id : Json) (method : Text) (params : Json)
    (hs : State.Alike R s s') :
    (request a id method params s).Alike R (request b id method params s') := by
  rw [request_eq, request_eq]
  refine (traced_alike h hs _).andThen fun u u' hu => ?_
  obtain ⟨step, reply⟩ := replied_alike h method params (tick_alike hu)
  rw [reply, h.clock, hu.clockReads]
  refine step.andThen fun v v' hv => ?_
  exact (tracedEnd_alike h hv _ _).andThen fun w w' hw => emit_alike h hw _

theorem exited_alike (h : a.Alike R b) (hs : State.Alike R s s') : (exited a s).Alike R (exited b s') := by
  have hcode : s.lifecycle.exitCode = s'.lifecycle.exitCode := congrArg Lifecycle.exitCode hs.lifecycle
  obtain ⟨hover, hhost⟩ := h.leave _ _ s'.lifecycle.exitCode hs.host
  simp only [exited, hcode]
  rw [hover]
  exact ⟨{ hs with host := hhost }, rfl, .same _⟩

theorem heard_alike (h : a.Alike R b) (method : Text) (params : Json) (hs : State.Alike R s s') :
    (heard a method params s).Alike R (heard b method params s') := by
  unfold heard
  split
  · exact ⟨hs, rfl, .same _⟩
  · exact exited_alike h hs
  · rename_i m _ _
    rw [hs.store]
    have hstate : State.Alike R { s with store := (notified m params s'.store).1 }
        { s' with store := (notified m params s'.store).1 } := { hs with store := rfl }
    dsimp only
    cases (notified m params s'.store).2 with
    | none => exact ⟨hstate, rfl, .same _⟩
    | some f => exact note_alike rfl _ _ hstate

theorem notification_alike (h : a.Alike R b) (method : Text) (params : Json) (hs : State.Alike R s s') :
    (notification a method params s).Alike R (notification b method params s') :=
  (traced_alike h hs _).andThen fun _ _ hu => heard_alike h method params hu

/-- Whatever message comes in, alike states stay alike. -/
theorem message_alike (h : a.Alike R b) (m : Rpc.Message) (s : State σ) (s' : State τ)
    (hs : State.Alike R s s') : (message a m s).Alike R (message b m s') := by
  cases m with
  | request id method params => exact request_alike h id method params hs
  | notification method params => exact notification_alike h method params hs
  | invalid id => exact emit_alike h hs _

theorem run_alike (h : a.Alike R b) (vs : List Json) (hs : State.Alike R s s') :
    (run a vs s).Alike R (run b vs s') :=
  Step.each_alike (fun v _ _ hs => Step.each_alike (message_alike h) (Rpc.classify v).toList hs) vs hs

end Routing

/-- What events leave in the trace. -/
def recorded (events : List Event) : List (Moment × Trace.Event) :=
  events.filterMap fun
    | .traced time e => some (time, e)
    | _ => none

theorem emitted_muted (events : List Event) : emitted (events.map Event.muted) = emitted events := by
  rw [emitted, List.filterMap_map]
  congr 1
  funext e
  cases e <;> rfl

theorem recorded_muted (events : List Event) : recorded (events.map Event.muted) = recorded events := by
  rw [recorded, List.filterMap_map]
  congr 1
  funext e
  cases e <;> rfl

/-- What went wrong behind a server shows in its log and nowhere else, unless it is that it cannot be shown: with
surroundings that behave alike, all that is emitted and traced is the same after every run, and so are the open documents,
the lifecycle and the way the run stopped, though something else may have been raised. -/
theorem run_conceals {a : Setup σ} {b : Setup τ} (h : a.Alike R b) {host : σ} {host' : τ} (hr : R host host')
    (vs : List Json) :
    emitted (run a vs (.start host)).events = emitted (run b vs (.start host')).events ∧
      recorded (run a vs (.start host)).events = recorded (run b vs (.start host')).events ∧
      (run a vs (.start host)).state.store = (run b vs (.start host')).state.store ∧
      (run a vs (.start host)).state.lifecycle = (run b vs (.start host')).state.lifecycle ∧
      HaltAlike (run a vs (.start host)).halt (run b vs (.start host')).halt ∧
      (run a vs (.start host)).events.map Event.muted = (run b vs (.start host')).events.map Event.muted := by
  have hs : State.Alike R (.start host) (.start host') := ⟨rfl, rfl, hr, rfl, rfl, rfl⟩
  obtain ⟨state, events, halt⟩ := run_alike h vs hs
  refine ⟨?_, ?_, state.store, state.lifecycle, halt, events⟩
  · rw [← emitted_muted, events, emitted_muted]
  · rw [← recorded_muted, events, recorded_muted]

/-- A server with a trace, behind which everything goes wrong in the same way. -/
def failing (f : Fault) : Setup Unit :=
  { recording with
    ask := fun _ store _ => (.failed f, store, ())
    launch := fun _ _ => (.failed f, ()) }

theorem failing_alike {f f' : Fault} (h : f.isShown = f'.isShown) : (failing f).Alike Eq (failing f') where
  serverInfo := rfl
  openCommand := rfl
  ask _ _ _ _ _ := ⟨.failed h, rfl, rfl⟩
  launch _ _ _ _ := ⟨.failed h, rfl⟩
  tracing := .some rfl rfl rfl fun _ _ _ _ => ⟨rfl, rfl⟩
  clock := rfl
  deliver := rfl
  leave _ _ _ _ := ⟨rfl, rfl⟩

def hoverRequest : Json :=
  .record [("id", .int 1), ("method", Json.string "textDocument/hover"),
    ("params", .record [("textDocument", .record [("uri", Json.string "u")]),
      ("position", .record [("line", .int 0), ("character", .int 0)])])]

theorem run_conceals_hoverRequest :
    (failing (.backend "password")).Alike Eq (failing .nulByte) ∧
      (run (failing (.backend "password")) [hoverRequest] (.start ())).events ≠
        (run (failing .nulByte) [hoverRequest] (.start ())).events ∧
      emitted (run (failing (.backend "password")) [hoverRequest] (.start ())).events =
        [⟨.int 1, internalError "textDocument/hover"⟩] ∧
      recorded (run (failing (.backend "password")) [hoverRequest] (.start ())).events =
        recorded (run (failing .nulByte) [hoverRequest] (.start ())).events := by
  have h : (failing (.backend "password")).Alike Eq (failing .nulByte) := failing_alike rfl
  have hc := run_conceals h (Eq.refl ()) [hoverRequest]
  have hb : emitted (run (failing .nulByte) [hoverRequest] (.start ())).events =
      [⟨.int 1, internalError "textDocument/hover"⟩] := by
    decide +kernel
  exact ⟨h, by decide +kernel, hc.1.trans hb, hc.2.1⟩

/-- A fault whose only argument is a number that is too long to be shown, beside one that can be shown: the one request is
answered, the other is not. -/
theorem unanswered_longArgument :
    emitted (run (failing (.backend "password")) [hoverRequest] (.start ())).events =
        [⟨.int 1, internalError "textDocument/hover"⟩] ∧
      emitted (run (failing (.unshown "RuntimeError" .tooManyDigits)) [hoverRequest] (.start ())).events = [] ∧
      (run (failing (.unshown "RuntimeError" .tooManyDigits)) [hoverRequest] (.start ())).halt =
        some (.raised .tooManyDigits) := by
  decide +kernel

end Server

end LspEndpoint
