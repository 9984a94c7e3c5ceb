import LspEndpoint.Proofs.Server.Frame
import LspEndpoint.Proofs.Server.Noninterference

/-!
A batch is its messages one after the other. The messages of a batch are all known before the first of them is handled,
and still a server does with the batch what it does with the messages when they come in one by one, at other times:
only the times and durations in the trace tell the two apart.
-/
namespace LspEndpoint

/-- The event without the time that it took. -/
def Trace.Event.untimed : Trace.Event → Trace.Event
  | .response id status _ => .response id status .null
  | e => e

theorem Trace.Event.depth_untimed (e : Trace.Event) : e.untimed.depth = e.depth := by
  cases e <;> rfl

theorem Rpc.flattened_of_isObject {v : Json} (h : isObject v) : flattened v = [v] := by
  cases v with
  | array items => cases h
  | _ => rfl

theorem Rpc.flatMap_flattened_of_isObject {items : List Json} (h : items.all isObject) :
    items.flatMap flattened = items := by
  induction items with
  | nil => rfl
  | cons v rest ih =>
    rw [List.all_cons, Bool.and_eq_true] at h
    rw [List.flatMap_cons, flattened_of_isObject h.1, ih h.2]
    rfl

namespace Server

open Rpc

variable {σ : Type}

/-- A batch is handled as its messages in turn are, in every state. -/
theorem process_array (setup : Setup σ) {items : List Json} (hne : items ≠ []) (ho : items.all isObject) (s : State σ) :
    process setup (.array items) s = run setup items s := by
  have hf : flattened (.array items) = items := by rw [flattened, if_pos ⟨hne, ho⟩]
  have hrun : run setup [.array items] s = process setup (.array items) s := Step.andThen_still _
  rw [← hrun, run_eq_each, run_eq_each, flatMap_flattened_of_isObject ho, List.flatMap_singleton, hf]

section Times

/-- The event without its time. -/
def Event.untimed : Event → Event
  | .traced _ e => .traced ⟨⟨1970, 1, 1⟩, 0, 0, 0, 0, none⟩ e.untimed
  | e => e

/-- The same server at other times. -/
def Setup.retimed (setup : Setup σ) (time : Nat → Moment) (clock : Nat → Binary64) : Setup σ :=
  { setup with clock, tracing := setup.tracing.map fun t => { t with time } }

theorem emitted_untimed (events : List Event) : emitted (events.map Event.untimed) = emitted events := by
  rw [emitted, List.filterMap_map]
  congr 1
  funext e
  cases e <;> rfl

theorem logged_untimed (events : List Event) : logged (events.map Event.untimed) = logged events := by
  rw [logged, List.filterMap_map]
  congr 1
  funext e
  cases e <;> rfl

theorem deeds_untimed (events : List Event) : deeds (events.map Event.untimed) = deeds events := by
  induction events with
  | nil => rfl
  | cons e rest ih =>
    cases e with
    | asked q => exact congrArg (List.cons _) ih
    | launched argv => exact congrArg (List.cons _) ih
    | exited code => exact congrArg (List.cons _) ih
    | _ => exact ih

theorem recorded_untimed (events : List Event) :
    (recorded (events.map Event.untimed)).map Prod.snd = (recorded events).map fun r => r.2.untimed := by
  induction events with
  | nil => rfl
  | cons e rest ih =>
    cases e with
    | traced time e => exact congrArg (List.cons _) ih
    | _ => exact ih

/-- Lines that were both taken, or both not and for the same reason. -/
structure TakenAlike (R : σ → σ → Prop) (x y : Option File.Refusal × σ) : Prop where
  refusal : x.1 = y.1
  host : R x.2 y.2

/-- Differences between hosts that backend and programs do not see, and that come from nothing but the times in a
trace: whether the trace takes a line does not hang on them. -/
structure Setup.IgnoresTimes (setup : Setup σ) (R : σ → σ → Prop) : Prop where
  overlooks : setup.untraced.Overlooks R
  write : ∀ t, setup.tracing = some t → ∀ (host host' : σ) (e e' : Trace.Event) (time time' : Moment), R host host' →
    e.untimed = e'.untimed → TakenAlike R (t.write host (e.line t.limit time)) (t.write host' (e'.line t.limit time'))

/-- States of two servers with open traces that differ in what the times made of the host. -/
structure State.Paired (R : σ → σ → Prop) (s s' : State σ) : Prop extends State.Beside R s s' where
  isOpen' : s'.traceClosed = false

/-- Steps that differ in times only. -/
structure Step.SameButTimes (R : σ → σ → Prop) (x y : Step σ) : Prop where
  state : State.Paired R x.state y.state
  events : x.events.map Event.untimed = y.events.map Event.untimed
  halt : x.halt = y.halt

end Times

variable {R : σ → σ → Prop}

namespace Step

theorem SameButTimes.andThen {x y : Step σ} (h : x.SameButTimes R y) {f g : State σ → Step σ}
    (hfg : ∀ s s', State.Paired R s s' → (f s).SameButTimes R (g s')) :
    (x.andThen f).SameButTimes R (y.andThen g) := by
  cases hx : x.halt with
  | some halt =>
    rw [andThen_of_some hx, andThen_of_some (h.halt ▸ hx)]
    exact h
  | none =>
    obtain ⟨state, events, halt⟩ := hfg _ _ h.state
    rw [andThen_of_none hx, andThen_of_none (h.halt ▸ hx)]
    exact ⟨state, by rw [List.map_append, List.map_append, h.events, events], halt⟩

theorem each_sameButTimes {α : Type} {f g : α → State σ → Step σ}
    (hfg : ∀ a s s', State.Paired R s s' → (f a s).SameButTimes R (g a s')) (as : List α) {s s' : State σ}
    (hs : State.Paired R s s') : (each f as s).SameButTimes R (each g as s') := by
  induction as generalizing s s' with
  | nil => exact ⟨hs, rfl, rfl⟩
  | cons a rest ih => exact (hfg a s s' hs).andThen fun _ _ => ih

end Step

section Routing

variable {setup : Setup σ} {s s' : State σ}

theorem tick_paired (hs : State.Paired R s s') : State.Paired R (tick s) (tick s') :=
  ⟨⟨hs.lifecycle, hs.store, hs.host, hs.isOpen⟩, hs.isOpen'⟩

theorem traced_sameButTimes (h : setup.IgnoresTimes R) (time : Nat → Moment) (clock : Nat → Binary64)
    {e e' : Trace.Event} (he : e.untimed = e'.untimed) (hs : State.Paired R s s') :
    (traced setup e s).SameButTimes R (traced (setup.retimed time clock) e' s') := by
  cases ht : setup.tracing with
  | none =>
    simp only [traced, Setup.retimed, ht, Option.map_none]
    exact ⟨hs, rfl, rfl⟩
  | some t =>
    obtain ⟨hrefusal, hhost⟩ :=
      h.write t ht s.host s'.host e e' (t.time s.linesTried) (time s'.linesTried) hs.host he
    have hdepth : e.depth = e'.depth := by rw [← e.depth_untimed, he, e'.depth_untimed]
    simp only [traced, Setup.retimed, ht, Option.map_some, hs.isOpen, hs.isOpen', Bool.false_eq_true, if_false, hdepth]
    split
    · exact ⟨hs, rfl, rfl⟩
    · split <;> rename_i hx <;> split <;> rename_i hy
      · refine ⟨⟨⟨hs.lifecycle, hs.store, hhost, rfl⟩, rfl⟩, ?_, rfl⟩
        simp [Step.did, Event.untimed, he]
      · cases hx.symm.trans (hrefusal.trans hy)
      · cases hx.symm.trans (hrefusal.trans hy)
      · obtain rfl := Option.some.inj (hx.symm.trans (hrefusal.trans hy))
        exact ⟨⟨⟨hs.lifecycle, hs.store, hhost, rfl⟩, rfl⟩, rfl, rfl⟩

theorem tracedEnd_sameButTimes (h : setup.IgnoresTimes R) (time : Nat → Moment) (clock : Nat → Binary64)
    (start start' : Binary64) (r : Response) (hs : State.Paired R s s') :
    (tracedEnd setup start r s).SameButTimes R (tracedEnd (setup.retimed time clock) start' r s') := by
  cases ht : setup.tracing with
  | none =>
    simp only [tracedEnd, Setup.retimed, ht, Option.map_none]
    exact ⟨hs, rfl, rfl⟩
  | some t =>
    have hy : (setup.retimed time clock).tracing.isSome := by
      rw [Setup.retimed, ht]
      rfl
    cases hr : r.status? with
    | none =>
      have hx : setup.canName r = false := by simp [Setup.canName, ht, hr]
      have hx' : (setup.retimed time clock).canName r = false := by simp [Setup.canName, Setup.retimed, ht, hr]
      rw [tracedEnd_of_unnamed hx, tracedEnd_of_unnamed hx']
      exact ⟨hs, rfl, rfl⟩
    | some status =>
      rw [tracedEnd_of_named (by rw [ht]; rfl) hr, tracedEnd_of_named hy hr]
      exact traced_sameButTimes h time clock rfl (tick_paired hs)

theorem emit_sameButTimes (time : Nat → Moment) (clock : Nat → Binary64) (r : Response) (hs : State.Paired R s s') :
    (emit setup r s).SameButTimes R (emit (setup.retimed time clock) r s') := by
  unfold emit Setup.retimed
  dsimp only
  split <;> exact ⟨hs, rfl, rfl⟩

/-- No handler looks at the time. -/
theorem handled_sameButTimes (h : setup.IgnoresTimes R) (m : RequestMethod) (params : Json)
    (hs : State.Paired R s s') :
    State.Paired R (handled setup m params s).state (handled setup m params s').state ∧
      (handled setup m params s).events = (handled setup m params s').events ∧
        (handled setup m params s).outcome = (handled setup m params s').outcome := by
  -- Handlers have no part in the trace, so what holds beside a server without one holds beside the server itself.
  have hb : Handled.Beside R s (handled setup m params s) (handled setup m params s') :=
    handled_beside h.overlooks m params hs.toBeside
  exact ⟨⟨hb.state, (handled_handles setup m params s').traceClosed.trans hs.isOpen'⟩, hb.events, hb.outcome⟩

/-- A fault is noted in the same words, if it is noted. -/
theorem note_sameButTimes (line : Text → Text) (f : Fault) (hs : State.Paired R s s') :
    (note line f s).SameButTimes R (note line f s') := by
  unfold note
  cases f.display <;> exact ⟨hs, rfl, rfl⟩

theorem replied_sameButTimes (h : setup.IgnoresTimes R) (method : Text) (params : Json) (hs : State.Paired R s s') :
    (replied setup method params s).1.SameButTimes R (replied setup method params s').1 ∧
      (replied setup method params s).2 = (replied setup method params s').2 := by
  unfold replied
  cases RequestMethod.ofText? method with
  | none => exact ⟨⟨hs, rfl, rfl⟩, rfl⟩
  | some m =>
    obtain ⟨state, events, outcome⟩ := handled_sameButTimes h m params hs
    have hstep : Step.SameButTimes R
        ⟨(handled setup m params s).state, (handled setup m params s).events, none⟩
        ⟨(handled setup m params s').state, (handled setup m params s').events, none⟩ :=
      ⟨state, congrArg _ events, rfl⟩
    dsimp only
    rw [← outcome]
    cases (handled setup m params s).outcome with
    | reply r => exact ⟨hstep, rfl⟩
    | fault f =>
      have haccount : setup.account (handled setup m params s).state.host f =
          setup.account (handled setup m params s').state.host f := h.overlooks.account _ _ f state.host
      refine ⟨hstep.andThen fun u u' hu => ?_, rfl⟩
      rw [haccount]
      exact note_sameButTimes _ f hu

theorem request_sameButTimes (h : setup.IgnoresTimes R) (time : Nat → Moment) (clock : Nat → Binary64) (id : Json)
    (method : Text) (params : Json) (hs : State.Paired R s s') :
    (request setup id method params s).SameButTimes R (request (setup.retimed time clock) id method params s') := by
  rw [request_eq, request_eq]
  refine (traced_sameButTimes h time clock rfl hs).andThen fun u u' hu => ?_
  obtain ⟨hstep, hreply⟩ := replied_sameButTimes h method params (tick_paired hu)
  -- Only the trace and the clock are others at other times, and a reply needs neither.
  have hretimed : replied (setup.retimed time clock) method params (tick u') = replied setup method params (tick u') :=
    rfl
  rw [hretimed, ← hreply]
  refine hstep.andThen fun v v' hv => ?_
  exact (tracedEnd_sameButTimes h time clock _ _ _ hv).andThen fun w w' hw => emit_sameButTimes time clock _ hw

theorem exited_sameButTimes (h : setup.IgnoresTimes R) (hs : State.Paired R s s') :
    (exited setup s).SameButTimes R (exited setup s') := by
  obtain ⟨hover, hhost⟩ := h.overlooks.leave _ _ s'.lifecycle.exitCode hs.host
  unfold exited
  rw [hs.lifecycle]
  refine ⟨⟨⟨rfl, hs.store, hhost, hs.isOpen⟩, hs.isOpen'⟩, rfl, ?_⟩
  exact congrArg (fun isOver : Bool => if isOver then some (Halt.exited s'.lifecycle.exitCode) else none) hover

theorem heard_sameButTimes (h : setup.IgnoresTimes R) (method : Text) (params : Json) (hs : State.Paired R s s') :
    (heard setup method params s).SameButTimes R (heard setup method params s') := by
  unfold heard
  split
  · exact ⟨hs, rfl, rfl⟩
  · exact exited_sameButTimes h hs
  · rename_i m _ _
    rw [hs.store]
    have hstate : State.Paired R { s with store := (notified m params s'.store).1 }
        { s' with store := (notified m params s'.store).1 } := ⟨{ hs.toBeside with store := rfl }, hs.isOpen'⟩
    dsimp only
    cases (notified m params s'.store).2 with
    | none => exact ⟨hstate, rfl, rfl⟩
    | some f => exact note_sameButTimes _ f hstate

theorem notification_sameButTimes (h : setup.IgnoresTimes R) (time : Nat → Moment) (clock : Nat → Binary64)
    (method : Text) (params : Json) (hs : State.Paired R s s') :
    (notification setup method params s).SameButTimes R
      (notification (setup.retimed time clock) method params s') :=
  (traced_sameButTimes h time clock rfl hs).andThen fun _ _ hu => heard_sameButTimes h method params hu

theorem message_sameButTimes (h : setup.IgnoresTimes R) (time : Nat → Moment) (clock : Nat → Binary64) (m : Message)
    (s s' : State σ) (hs : State.Paired R s s') :
    (message setup m s).SameButTimes R (message (setup.retimed time clock) m s') := by
  cases m with
  | request id method params => exact request_sameButTimes h time clock id method params hs
  | notification method params => exact notification_sameButTimes h time clock method params hs
  | invalid id => exact emit_sameButTimes time clock _ hs

theorem run_sameButTimes (h : setup.IgnoresTimes R) (time : Nat → Moment) (clock : Nat → Binary64) (vs : List Json)
    (hs : State.Paired R s s') : (run setup vs s).SameButTimes R (run (setup.retimed time clock) vs s') :=
  Step.each_sameButTimes (fun v _ _ hs => Step.each_sameButTimes (message_sameButTimes h time clock)
    (classify v).toList hs) vs hs

end Routing

/-- Runs that nobody can tell apart but by the times in the trace: the same is emitted, asked for, run, logged and
recorded in the same order, and they stop at the same point in the same way. -/
structure Coincide (x y : Step σ) : Prop where
  emitted : emitted x.events = emitted y.events
  deeds : deeds x.events = deeds y.events
  logged : logged x.events = logged y.events
  recorded : (recorded x.events).map (fun r => r.2.untimed) = (recorded y.events).map fun r => r.2.untimed
  events : x.events.map Event.untimed = y.events.map Event.untimed
  lifecycle : x.state.lifecycle = y.state.lifecycle
  store : x.state.store = y.state.store
  halt : x.halt = y.halt

theorem Step.SameButTimes.coincide {x y : Step σ} (h : x.SameButTimes R y) : Coincide x y where
  emitted := by rw [← emitted_untimed x.events, h.events, emitted_untimed]
  deeds := by rw [← deeds_untimed x.events, h.events, deeds_untimed]
  logged := by rw [← logged_untimed x.events, h.events, logged_untimed]
  recorded := by rw [← recorded_untimed x.events, h.events, recorded_untimed]
  events := h.events
  lifecycle := h.state.lifecycle
  store := h.state.store
  halt := h.halt

/-- A batch of objects is the objects in turn, whatever state it finds: step by step where the times are the same, and
but for the times where the objects come in at other times and the trace takes the same lines. -/
theorem process_batch (setup : Setup σ) {items : List Json} (hne : items ≠ []) (ho : items.all isObject) :
    (∀ s, process setup (.array items) s = run setup items s) ∧
      ∀ R, setup.IgnoresTimes R → ∀ time clock s s', State.Paired R s s' →
        Coincide (process setup (.array items) s) (run (setup.retimed time clock) items s') := by
  refine ⟨process_array setup hne ho, fun R h time clock s s' hs => ?_⟩
  rw [process_array setup hne ho]
  exact (run_sameButTimes h time clock items hs).coincide

/-- A server whose trace takes so many lines and no more, however long they are. -/
def thrifty (room : Nat) : Setup Nat where
  serverInfo := .ok .null
  openCommand := []
  ask := Backend.reading Backend.empty
  launch host _ := (.result .null, host)
  tracing := some
    { limit := 10
      depth := stackRoom
      time := fun n => ⟨⟨1970, 1, 1⟩, 0, 0, n, 0, none⟩
      write := fun used _ => if used < room then (none, used + 1) else (some .noSpace, used)
      close := fun _ _ => none }
  clock n := Binary64.ofInt n
  deliver _ := none
  leave host _ := (true, host)
  account _ _ := []

theorem thrifty_ignoresTimes (room : Nat) : (thrifty room).IgnoresTimes Eq where
  overlooks :=
    { ask := fun _ _ _ _ h => ⟨by rw [h], by rw [h], by rw [h]⟩
      launch := fun _ _ _ h => ⟨rfl, h⟩
      leave := fun _ _ _ h => ⟨rfl, h⟩
      write := fun _ ht => by cases ht
      account := fun _ _ _ _ => rfl }
  write t ht used used' e e' time time' h _ := by
    cases ht
    subst h
    dsimp only
    split <;> exact ⟨rfl, rfl⟩

theorem process_batch_exitInBatch :
    (thrifty 2).IgnoresTimes Eq ∧
      Coincide (process (thrifty 2) (.array (flattened exitInBatch)) (.start 0))
        (run ((thrifty 2).retimed (fun n => ⟨⟨2024, 2, 29⟩, n, 0, 0, 0, none⟩) fun n => Binary64.ofInt (n * n))
          (flattened exitInBatch) (.start 0)) ∧
      emitted (process (thrifty 2) (.array (flattened exitInBatch)) (.start 0)).events = [⟨.int 7, .result .null⟩] ∧
      (recorded (process (thrifty 2) (.array (flattened exitInBatch)) (.start 0)).events).length = 2 ∧
      (logged (process (thrifty 2) (.array (flattened exitInBatch)) (.start 0)).events).countP isWriteFailure = 1 ∧
      (process (thrifty 2) (.array (flattened exitInBatch)) (.start 0)).halt = some (.exited 0) := by
  have hne : flattened exitInBatch ≠ [] := by decide +kernel
  have ho : (flattened exitInBatch).all isObject := by decide +kernel
  have hb := process_batch (thrifty 2) hne ho
  refine ⟨thrifty_ignoresTimes 2, ?_, ?_⟩
  · exact hb.2 Eq (thrifty_ignoresTimes 2) _ _ _ _ ⟨⟨rfl, rfl, rfl, rfl⟩, rfl⟩
  · rw [hb.1]
    decide +kernel

end Server

end LspEndpoint
