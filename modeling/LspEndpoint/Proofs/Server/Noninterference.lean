import LspEndpoint.Proofs.Server.Concealment

/-!
A trace does not interfere where it has room and a name for what it is to record. A server with a trace, whatever becomes
of its lines, and the same server without one do the same thing for ever after, and one line of the log stands for each
line that the trace did not take. Programs and backend may see the trace as part of what they share, as long as it makes
no difference to them. Params that are nested too deep, and codes that cannot be shown, stop the server with the trace only.
-/
namespace LspEndpoint

theorem Text.trimRight_isPrefix (t : Text) : trimRight t <+: t := by
  rw [trimRight, ← List.reverse_suffix, List.reverse_reverse]
  exact List.dropWhile_suffix _

namespace Server

variable {σ : Type}

/-- The same server without a trace. -/
def Setup.untraced (setup : Setup σ) : Setup σ := { setup with tracing := none }

/-- Differences between hosts that backend and programs do not see, and that the lines of the trace make at most. -/
structure Setup.Overlooks (setup : Setup σ) (R : σ → σ → Prop) : Prop where
  ask : ∀ host host' store q, R host host' →
    (setup.ask host store q).1 = (setup.ask host' store q).1 ∧
      (setup.ask host store q).2.1 = (setup.ask host' store q).2.1 ∧
        R (setup.ask host store q).2.2 (setup.ask host' store q).2.2
  launch : ∀ host host' argv, R host host' →
    (setup.launch host argv).1 = (setup.launch host' argv).1 ∧
      R (setup.launch host argv).2 (setup.launch host' argv).2
  leave : ∀ host host' code, R host host' →
    (setup.leave host code).1 = (setup.leave host' code).1 ∧
      R (setup.leave host code).2 (setup.leave host' code).2
  write : ∀ t, setup.tracing = some t → ∀ host host' line, R host host' → R (t.write host line).2 host'
  account : ∀ host host' f, R host host' → setup.account host f = setup.account host' f

section Events

/-- A line of the log about a line that the trace did not take. -/
def isWriteFailure (line : Text) : Bool := line.startsWith "Trace write failed: "

/-- An event that there is only because there is a trace. -/
def Event.isOfTrace : Event → Bool
  | .traced _ _ => true
  | .logged line => isWriteFailure line
  | _ => false

/-- The lines of the log. -/
def logged (events : List Event) : List Text :=
  events.filterMap fun
    | .logged line => some line
    | _ => none

theorem isWriteFailure_append (t : Text) : isWriteFailure ("Trace write failed: " ++ t) = true :=
  List.isPrefixOf_iff_prefix.2 (List.prefix_append ..)

theorem isWriteFailure_of_prefix {line t : Text} (h : line <+: t) (hf : isWriteFailure t = false) :
    isWriteFailure line = false := by
  refine Bool.eq_false_iff.2 fun hl => ?_
  have ht : isWriteFailure t = true :=
    List.isPrefixOf_iff_prefix.2 ((List.isPrefixOf_iff_prefix.1 hl).trans h)
  rw [hf] at ht
  cases ht

theorem isWriteFailure_requestFault (method shown account : Text) :
    isWriteFailure (requestFault method shown account) = false := rfl

theorem isWriteFailure_notificationFault (method shown : Text) :
    isWriteFailure (notificationFault method shown) = false := rfl

theorem isWriteFailure_greeting (p : InitializeParams) : isWriteFailure (greeting p) = false :=
  isWriteFailure_of_prefix (Text.trimRight_isPrefix _) rfl

/-- The events that there would be without a trace, too. -/
def untraced (events : List Event) : List Event := events.filter fun e => !e.isOfTrace

theorem untraced_append (first second : List Event) :
    untraced (first ++ second) = untraced first ++ untraced second :=
  List.filter_append ..

theorem emitted_untraced (events : List Event) : emitted (untraced events) = emitted events := by
  rw [emitted, untraced, List.filterMap_filter]
  congr 1
  funext e
  cases e <;> simp [Event.isOfTrace]

theorem exits_untraced (events : List Event) : exits (untraced events) = exits events := by
  rw [exits, untraced, List.filterMap_filter]
  congr 1
  funext e
  cases e <;> simp [Event.isOfTrace]

theorem logged_untraced (events : List Event) :
    logged (untraced events) = (logged events).filter fun line => !isWriteFailure line := by
  rw [logged, logged, untraced, List.filterMap_filter, List.filter_filterMap]
  congr 1
  funext e
  cases e <;> simp [Event.isOfTrace, Option.filter]

theorem countP_isOfTrace (events : List Event) :
    events.countP Event.isOfTrace = (recorded events).length + (logged events).countP isWriteFailure := by
  induction events with
  | nil => rfl
  | cons e rest ih =>
    rw [List.countP_cons, ih]
    cases e with
    | traced time e =>
      change _ + 1 = (recorded rest).length + 1 + (logged rest).countP isWriteFailure
      omega
    | logged line =>
      change _ = _ + (line :: logged rest).countP isWriteFailure
      rw [List.countP_cons]
      exact Nat.add_assoc ..
    | _ => rfl

end Events

section Relation

variable (R : σ → σ → Prop)

/-- States of a server with a trace that is open and of one without, which differ in what the trace needs only. -/
structure State.Beside (s s' : State σ) : Prop where
  lifecycle : s.lifecycle = s'.lifecycle
  store : s.store = s'.store
  host : R s.host s'.host
  isOpen : s.traceClosed = false

/-- A step from a state with a trace, beside one without: they differ in the events of the trace only, and there is one
of those for each line that was tried. -/
structure Step.Beside (s : State σ) (x y : Step σ) : Prop where
  state : State.Beside R x.state y.state
  events : untraced x.events = y.events
  tried : x.state.linesTried = s.linesTried + x.events.countP Event.isOfTrace
  halt : x.halt = y.halt

/-- Handlers that do the same, and nothing that only a trace causes. -/
structure Handled.Beside (s : State σ) (x y : Handled σ) : Prop where
  state : State.Beside R x.state y.state
  events : x.events = y.events
  untraced : ∀ e ∈ x.events, e.isOfTrace = false
  tried : x.state.linesTried = s.linesTried
  outcome : x.outcome = y.outcome

end Relation

variable {R : σ → σ → Prop}

theorem untraced_eq_self {events : List Event} (h : ∀ e ∈ events, e.isOfTrace = false) :
    untraced events = events ∧ events.countP Event.isOfTrace = 0 :=
  ⟨List.filter_eq_self.2 fun e he => by rw [h e he]; rfl, List.countP_eq_zero.2 fun e he => by rw [h e he]; decide⟩

namespace Step

/-- A step that the trace has no part in. -/
theorem Beside.of_untraced {s u u' : State σ} {events : List Event} {halt : Option Halt}
    (hu : State.Beside R u u') (he : ∀ e ∈ events, e.isOfTrace = false) (ht : u.linesTried = s.linesTried) :
    Step.Beside R s ⟨u, events, halt⟩ ⟨u', events, halt⟩ := by
  obtain ⟨hf, hc⟩ := untraced_eq_self he
  exact ⟨hu, hf, by rw [hc]; exact ht, rfl⟩

theorem Beside.andThen {s : State σ} {x y : Step σ} (h : x.Beside R s y) {f g : State σ → Step σ}
    (hfg : ∀ u u', State.Beside R u u' → (f u).Beside R u (g u')) :
    (x.andThen f).Beside R s (y.andThen g) := by
  cases hx : x.halt with
  | some halt =>
    rw [andThen_of_some hx, andThen_of_some (h.halt ▸ hx)]
    exact h
  | none =>
    obtain ⟨state, events, tried, halt⟩ := hfg _ _ h.state
    rw [andThen_of_none hx, andThen_of_none (h.halt ▸ hx)]
    refine ⟨state, ?_, ?_, halt⟩
    · rw [untraced_append, h.events, events]
    · rw [tried, h.tried, List.countP_append, Nat.add_assoc]

theorem each_beside {α : Type} {f g : α → State σ → Step σ} {as : List α}
    (hfg : ∀ a ∈ as, ∀ s s', State.Beside R s s' → (f a s).Beside R s (g a s')) {s s' : State σ}
    (hs : State.Beside R s s') : (each f as s).Beside R s (each g as s') := by
  induction as generalizing s s' with
  | nil => exact ⟨hs, rfl, rfl, rfl⟩
  | cons a rest ih =>
    exact (hfg a (List.mem_cons_self ..) s s' hs).andThen fun _ _ hu =>
      ih (fun b hb => hfg b (List.mem_cons_of_mem _ hb)) hu

end Step

section Routing

variable {setup : Setup σ} {s s' : State σ}

/-- Whether a line of the trace is taken or not, all else is as without it, if the trace has room for it. -/
theorem traced_beside (h : setup.Overlooks R) {e : Trace.Event} (hr : setup.hasRoom e.depth)
    (hs : State.Beside R s s') : (traced setup e s).Beside R s (traced setup.untraced e s') := by
  have hu : traced setup.untraced e s' = .still s' := rfl
  have ht := traced_traces setup e s
  rw [hu]
  generalize traced setup e s = a at ht
  cases ht with
  | untraced absent => exact ⟨hs, rfl, rfl, rfl⟩
  | tooDeep deep =>
    rw [hr] at deep
    cases deep
  | closed present isClosed => cases hs.isOpen.symm.trans isClosed
  | written present isOpen taken =>
    exact ⟨⟨hs.lifecycle, hs.store, h.write _ present _ _ _ hs.host, hs.isOpen⟩, rfl, rfl, rfl⟩
  | @failed t r present isOpen untaken =>
    have hf : (Event.logged (writeFault r)).isOfTrace = true := isWriteFailure_append _
    refine ⟨⟨hs.lifecycle, hs.store, h.write _ present _ _ _ hs.host, hs.isOpen⟩, ?_, ?_, rfl⟩
    · simp [Step.still, untraced, hf]
    · simp [hf]

theorem Step.Beside.of_tick {x y : Step σ} (h : x.Beside R (tick s) y) : x.Beside R s y :=
  ⟨h.state, h.events, h.tried, h.halt⟩

/-- The clock is read once more where there is a trace. -/
theorem tracedEnd_beside (h : setup.Overlooks R) (start start' : Binary64) {r : Rpc.Response}
    (hn : setup.canName r) (hs : State.Beside R s s') :
    (tracedEnd setup start r s).Beside R s (tracedEnd setup.untraced start' r s') := by
  have hu : tracedEnd setup.untraced start' r s' = .still s' := rfl
  rw [hu]
  rcases tracedEnd_cases setup start r s with ⟨-, he⟩ | ⟨hunnamed, -⟩ | ⟨status, -, -, he⟩
  · rw [he]
    exact ⟨hs, rfl, rfl, rfl⟩
  · rw [hn] at hunnamed
    cases hunnamed
  · rw [he]
    have hr : setup.hasRoom
        (Trace.Event.response r.id status (.float (duration start (setup.clock s.clockReads)))).depth :=
      Setup.hasRoom_iff.2 fun _ _ => Nat.zero_le _
    exact (traced_beside (s := tick s) h hr ⟨hs.lifecycle, hs.store, hs.host, hs.isOpen⟩).of_tick

theorem emit_beside (r : Rpc.Response) (hs : State.Beside R s s') :
    (emit setup r s).Beside R s (emit setup.untraced r s') := by
  unfold emit Setup.untraced
  dsimp only
  split <;> exact ⟨hs, rfl, rfl, rfl⟩

/-- A fault is noted in the same words, if it is noted. -/
theorem note_beside {f : Fault} {line : Text → Text} (hl : ∀ shown, isWriteFailure (line shown) = false)
    (hs : State.Beside R s s') : (note line f s).Beside R s (note line f s') := by
  unfold note
  cases f.display with
  | error r => exact ⟨hs, rfl, rfl, rfl⟩
  | ok shown =>
    refine .of_untraced hs (fun e he => ?_) rfl
    rw [List.mem_singleton.1 he]
    exact hl shown

theorem Handled.Beside.of_reply {r : Rpc.Reply} {u u' : State σ} (hs : State.Beside R u u')
    (ht : u.linesTried = s.linesTried) : Handled.Beside R s ⟨u, [], .reply r⟩ ⟨u', [], .reply r⟩ :=
  ⟨hs, rfl, fun _ he => absurd he List.not_mem_nil, ht, rfl⟩

theorem initialized_beside (params : Json) (hs : State.Beside R s s') :
    (initialized setup params s).Beside R s (initialized setup.untraced params s') := by
  unfold initialized
  split
  · exact .of_reply hs rfl
  · rename_i p _
    refine ⟨{ hs with lifecycle := by rw [hs.lifecycle] }, rfl, fun e he => ?_, rfl, rfl⟩
    rw [List.mem_singleton.1 he]
    exact isWriteFailure_greeting p

theorem executed_beside (h : setup.Overlooks R) (params : Json) (hs : State.Beside R s s') :
    (executed setup params s).Beside R s (executed setup.untraced params s') := by
  unfold executed
  split
  · exact .of_reply hs rfl
  · exact ⟨hs, rfl, fun _ he => absurd he List.not_mem_nil, rfl, rfl⟩
  · rename_i path _
    obtain ⟨hanswer, hhost⟩ := h.launch _ _ (Command.argv setup.openCommand path) hs.host
    refine ⟨{ hs with host := hhost }, rfl, fun e he => ?_, rfl, ?_⟩
    · rw [List.mem_singleton.1 he]
      rfl
    · exact congrArg (fun a => outcomeOf (a.map Command.result)) hanswer

theorem queried_beside (h : setup.Overlooks R) (operation : Operation) (params : Json)
    (hs : State.Beside R s s') :
    (queried setup operation params s).Beside R s (queried setup.untraced operation params s') := by
  unfold queried
  split
  · exact .of_reply hs rfl
  · rename_i arguments _
    obtain ⟨hanswer, hstore, hhost⟩ := h.ask _ _ s'.store ⟨operation, arguments⟩ hs.host
    rw [hs.store]
    refine ⟨{ hs with store := hstore, host := hhost }, rfl, fun e he => ?_, rfl, congrArg outcomeOf hanswer⟩
    rw [List.mem_singleton.1 he]
    rfl

theorem handled_beside (h : setup.Overlooks R) (m : RequestMethod) (params : Json) (hs : State.Beside R s s') :
    (handled setup m params s).Beside R s (handled setup.untraced m params s') := by
  cases m with
  | initialization => exact initialized_beside params hs
  | shutdown => exact .of_reply { hs with lifecycle := congrArg Lifecycle.shutDown hs.lifecycle } rfl
  | executeCommand => exact executed_beside h params hs
  | document operation => exact queried_beside h operation params hs

/-- Replies are the same, and so is what their handlers do. -/
theorem replied_beside (h : setup.Overlooks R) (method : Text) (params : Json) (hs : State.Beside R s s') :
    (replied setup method params s).1.Beside R s (replied setup.untraced method params s').1 ∧
      (replied setup method params s).2 = (replied setup.untraced method params s').2 := by
  unfold replied
  cases RequestMethod.ofText? method with
  | none => exact ⟨⟨hs, rfl, rfl, rfl⟩, rfl⟩
  | some m =>
    obtain ⟨state, events, untraced, tried, outcome⟩ := handled_beside h m params hs
    have hstep : Step.Beside R s ⟨(handled setup m params s).state, (handled setup m params s).events, none⟩
        ⟨(handled setup.untraced m params s').state, (handled setup.untraced m params s').events, none⟩ :=
      events ▸ .of_untraced state untraced tried
    dsimp only
    rw [← outcome]
    cases (handled setup m params s).outcome with
    | reply r => exact ⟨hstep, rfl⟩
    | fault f =>
      refine ⟨hstep.andThen fun u u' hu => ?_, rfl⟩
      rw [h.account _ _ f state.host]
      exact note_beside (fun _ => isWriteFailure_requestFault ..) hu

theorem request_beside (h : setup.Overlooks R) (hn : setup.tracing.isSome → setup.Answers Answer.isNamed) (id : Json)
    (method : Text) {params : Json} (hr : setup.hasRoom params.depth) (hs : State.Beside R s s') :
    (request setup id method params s).Beside R s (request setup.untraced id method params s') := by
  rw [request_eq, request_eq]
  refine (traced_beside (e := .request id method params) h hr hs).andThen fun u u' hu => ?_
  have ht : State.Beside R (tick u) (tick u') := ⟨hu.lifecycle, hu.store, hu.host, hu.isOpen⟩
  obtain ⟨hstep, hreply⟩ := replied_beside h method params ht
  have hnamed : setup.canName ⟨id, (replied setup method params (tick u)).2⟩ :=
    Setup.canName_iff.2 fun code hsome hc => isShown_of_code? (hn hsome) hc
  rw [← hreply]
  refine hstep.of_tick.andThen fun v v' hv => ?_
  exact (tracedEnd_beside h _ _ hnamed hv).andThen fun w w' hw => emit_beside _ hw

theorem exited_beside (h : setup.Overlooks R) (hs : State.Beside R s s') :
    (exited setup s).Beside R s (exited setup.untraced s') := by
  obtain ⟨hover, hhost⟩ := h.leave _ _ s'.lifecycle.exitCode hs.host
  unfold exited
  rw [hs.lifecycle]
  refine ⟨⟨rfl, hs.store, hhost, hs.isOpen⟩, rfl, rfl, ?_⟩
  exact congrArg (fun isOver : Bool => if isOver then some (Halt.exited s'.lifecycle.exitCode) else none) hover

theorem heard_beside (h : setup.Overlooks R) (method : Text) (params : Json) (hs : State.Beside R s s') :
    (heard setup method params s).Beside R s (heard setup.untraced method params s') := by
  unfold heard
  split
  · exact ⟨hs, rfl, rfl, rfl⟩
  · exact exited_beside h hs
  · rename_i m _ _
    rw [hs.store]
    have hstate : State.Beside R { s with store := (notified m params s'.store).1 }
        { s' with store := (notified m params s'.store).1 } := { hs with store := rfl }
    dsimp only
    cases (notified m params s'.store).2 with
    | none => exact ⟨hstate, rfl, rfl, rfl⟩
    | some f =>
      have hnote := note_beside (f := f) (isWriteFailure_notificationFault method) hstate
      exact ⟨hnote.state, hnote.events, hnote.tried, hnote.halt⟩

theorem notification_beside (h : setup.Overlooks R) (method : Text) {params : Json} (hr : setup.hasRoom params.depth)
    (hs : State.Beside R s s') :
    (notification setup method params s).Beside R s (notification setup.untraced method params s') :=
  (traced_beside (e := .notification method params) h hr hs).andThen fun _ _ hu => heard_beside h method params hu

/-- Whatever message comes in that fits, a trace makes no difference to what becomes of it. -/
theorem dispatched_beside (h : setup.Overlooks R) (hn : setup.tracing.isSome → setup.Answers Answer.isNamed) {v : Json}
    (hf : setup.fits v) (hs : State.Beside R s s') :
    (dispatched setup v s).Beside R s (dispatched setup.untraced v s') := by
  cases hm : Rpc.method? v with
  | none =>
    rw [dispatched_of_invalid hm, dispatched_of_invalid hm]
    exact emit_beside _ hs
  | some method =>
    have hr := Setup.hasRoom_of_fits hf hm
    cases hi : Rpc.id? v with
    | some id =>
      rw [dispatched_of_request hm hi, dispatched_of_request hm hi]
      exact request_beside h hn id method hr hs
    | none =>
      rw [dispatched_of_notification hm hi, dispatched_of_notification hm hi]
      exact notification_beside h method hr hs

theorem run_beside (h : setup.Overlooks R) (hn : setup.tracing.isSome → setup.Answers Answer.isNamed) {vs : List Json}
    (hf : ∀ v ∈ vs.flatMap Rpc.flattened, setup.fits v) (hs : State.Beside R s s') :
    (run setup vs s).Beside R s (run setup.untraced vs s') := by
  rw [run_eq_each, run_eq_each]
  refine Step.each_beside (f := dispatched setup) (g := dispatched setup.untraced) (fun v hv u u' hu => ?_) hs
  exact dispatched_beside h hn (hf v hv) hu

end Routing

/-- Runs that nobody can tell apart but by the trace and the log: the same is emitted, asked for and run at the same
points, and the log has one line more for each line that the trace was to take and did not take. -/
structure Undisturbed (x y : Step σ) : Prop where
  emitted : emitted x.events = emitted y.events
  exits : exits x.events = exits y.events
  events : untraced x.events = y.events
  lifecycle : x.state.lifecycle = y.state.lifecycle
  store : x.state.store = y.state.store
  halt : x.halt = y.halt
  log : (logged x.events).filter (fun line => !isWriteFailure line) = logged y.events
  failures : (logged x.events).countP isWriteFailure + (recorded x.events).length = x.state.linesTried

/-- Whatever comes in that the trace has room for, and whichever lines the trace takes, a server does what it does without
a trace, if the trace has a name for every code that the backend and the programs answer with. -/
theorem run_undisturbed {setup : Setup σ} {R : σ → σ → Prop} (h : setup.Overlooks R)
    (hn : setup.tracing.isSome → setup.Answers Answer.isNamed) {host host' : σ} (hr : R host host') (vs : List Json)
    (hf : ∀ v ∈ vs.flatMap Rpc.flattened, setup.fits v) :
    Undisturbed (run setup vs (.start host)) (run setup.untraced vs (.start host')) := by
  have hs : State.Beside R (.start host) (.start host') := ⟨rfl, rfl, hr, rfl⟩
  obtain ⟨state, events, tried, halt⟩ := run_beside h hn hf hs
  refine ⟨?_, ?_, events, state.lifecycle, state.store, halt, ?_, ?_⟩
  · rw [← events, emitted_untraced]
  · rw [← events, exits_untraced]
  · rw [← events, logged_untraced]
  · rw [tried, countP_isOfTrace, Nat.add_comm]
    exact (Nat.zero_add _).symm

/-- A server whose trace shares a store of characters with nobody, and takes no line that does not fit. -/
def cramped (room : Nat) : Setup Nat where
  serverInfo := .ok .null
  openCommand := []
  ask := Backend.reading Backend.empty
  launch host _ := (.result .null, host)
  tracing := some
    { limit := 10
      depth := stackRoom
      time := fun _ => ⟨⟨1970, 1, 1⟩, 0, 0, 0, 0, none⟩
      write := fun used line =>
        if used + line.length ≤ room then (none, used + line.length) else (some .noSpace, used)
      close := fun _ _ => none }
  clock _ := Binary64.ofInt 0
  deliver _ := none
  leave host _ := (true, host)
  account _ _ := []

theorem cramped_overlooks (room : Nat) : (cramped room).Overlooks fun _ _ => True where
  ask _ _ _ _ _ := ⟨rfl, rfl, trivial⟩
  launch _ _ _ _ := ⟨rfl, trivial⟩
  leave _ _ _ _ := ⟨rfl, trivial⟩
  write _ _ _ _ _ _ := trivial
  account _ _ _ _ := rfl

theorem run_undisturbed_cramped :
    (cramped 200).Overlooks (fun _ _ => True) ∧ (cramped 200).Answers Answer.isNamed ∧
      (∀ v ∈ [exitInBatch].flatMap Rpc.flattened, (cramped 200).fits v) ∧
      (logged (run (cramped 200) [exitInBatch] (.start 0)).events).countP isWriteFailure = 2 ∧
      emitted (run (cramped 200) [exitInBatch] (.start 0)).events = [⟨.int 7, .result .null⟩] ∧
      (run (cramped 200) [exitInBatch] (.start 0)).halt = some (.exited 0) := by
  have hb : emitted (run (cramped 200).untraced [exitInBatch] (.start 0)).events = [⟨.int 7, .result .null⟩] ∧
      (run (cramped 200).untraced [exitInBatch] (.start 0)).halt = some (.exited 0) := by
    decide +kernel
  have hn : (cramped 200).Answers Answer.isNamed := ⟨fun _ _ _ => rfl, fun _ _ => rfl⟩
  have hf : ∀ v ∈ [exitInBatch].flatMap Rpc.flattened, (cramped 200).fits v := by decide +kernel
  have h : Undisturbed (run (cramped 200) [exitInBatch] (.start 0))
      (run (cramped 200).untraced [exitInBatch] (.start 0)) :=
    run_undisturbed (cramped_overlooks 200) (fun _ => hn) trivial [exitInBatch] hf
  exact ⟨cramped_overlooks 200, hn, hf, by decide +kernel, h.emitted.trans hb.1, h.halt.trans hb.2⟩

/-- A request that is answered without a trace, and not where it is traced, though every line would be taken. -/
theorem disturbed_deepShutdown :
    emitted (run recording.untraced [deepShutdown] (.start ())).events = [⟨.int 1, .result .null⟩] ∧
      emitted (run recording [deepShutdown] (.start ())).events = [] ∧
      (run recording [deepShutdown] (.start ())).halt = some (.raised .tooDeep) := by
  rw [run_of_misfit recording [deepShutdown] rfl fits_deepShutdown]
  exact ⟨by decide +kernel, rfl, rfl⟩

end Server

end LspEndpoint
