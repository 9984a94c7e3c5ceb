import LspEndpoint.Proofs.Server.Lifecycle

/-!
Runs that end, and runs whose responses are sent. Unless something is raised, a run is ended by its first exit, with a
status that says whether a shutdown came before. Where all that a server emits can be sent, sending makes no difference to
the run; and what cannot be sent stops it.
-/
namespace LspEndpoint

open Rpc

theorem Rpc.isShutdown_of_isExit {v : Json} (h : isExit v) : isShutdown v = false := by
  simp only [isExit, decide_eq_true_eq] at h
  simp [isShutdown, h.2]

theorem Lifecycle.isShuttingDown_after (l : Lifecycle) (v : Json) :
    (l.after v).isShuttingDown = (l.isShuttingDown || isShutdown v) := by
  unfold after
  split
  · rename_i hs
    rw [isShuttingDown_shutDown, hs, Bool.or_true]
  · rename_i hs
    rw [Bool.eq_false_iff.2 hs, Bool.or_false]
    split
    · exact isShuttingDown_accept l _
    · rfl

namespace Server

variable {σ : Type}

/-- A message over which nothing is raised makes of the lifecycle what it says. -/
theorem dispatched_lifecycle_after {setup : Setup σ} {s : State σ} (h : s.traceClosed = false) {v : Json}
    (hn : (dispatched setup v s).halt ≠ some (.raised .tooDeep)) :
    (dispatched setup v s).state.lifecycle = s.lifecycle.after v := by
  rw [dispatched_lifecycle setup v h, if_pos]
  cases hf : setup.fits v with
  | true => rfl
  | false =>
    rw [dispatched_of_misfit hf] at hn
    exact absurd rfl hn

/-- Where all is sent and an exit ends the run, the run goes on after a message, or the message is an exit, or something is
raised for it. -/
theorem dispatched_turns (setup : Setup σ) (hd : ∀ r, setup.deliver r = none)
    (hl : ∀ host code, (setup.leave host code).1) {s : State σ} (ho : IsOpen setup s) (v : Json) :
    (isExit v = false ∧ (dispatched setup v s).halt = none) ∨
      (isExit v ∧ (dispatched setup v s).halt = some (.exited s.lifecycle.exitCode)) ∨
      ∃ r, Raises setup s v r ∧ (dispatched setup v s).halt = some (.raised r) := by
  cases dispatched_ends ho v with
  | raised raises stops => exact .inr (.inr ⟨_, raises, stops.halt⟩)
  | answered responds isOther sends => exact .inl ⟨isOther, (sends.of_delivered (hd _)).2⟩
  | unanswered owes isOther silent goesOn => exact .inl ⟨isOther, goesOn⟩
  | exit owes exits silent ends => exact .inr (.inl ⟨exits, ends.trans (if_pos (hl ..))⟩)

/-- Messages are handled up to the first exit, and a shutdown before it is remembered, unless something is raised. -/
theorem each_ends (setup : Setup σ) (hd : ∀ r, setup.deliver r = none) (hl : ∀ host code, (setup.leave host code).1)
    (vs : List Json) {s : State σ} (h : s.traceClosed = false)
    (hn : ∀ r, (Step.each (dispatched setup) vs s).halt ≠ some (.raised r)) :
    (Step.each (dispatched setup) vs s).state.lifecycle.isShuttingDown =
        (s.lifecycle.isShuttingDown || (vs.takeWhile fun v => !isExit v).any isShutdown) ∧
      (Step.each (dispatched setup) vs s).halt =
        if vs.any isExit then some (.exited (Step.each (dispatched setup) vs s).state.lifecycle.exitCode)
        else none := by
  induction vs generalizing s with
  | nil => exact ⟨(Bool.or_false _).symm, rfl⟩
  | cons v rest ih =>
    rw [Step.each] at hn ⊢
    rcases dispatched_turns setup hd hl (.inr h) v with ⟨hx, hh⟩ | ⟨hx, hh⟩ | ⟨r, -, hh⟩
    · have hafter : (dispatched setup v s).state.lifecycle = s.lifecycle.after v :=
        dispatched_lifecycle_after h (by simp [hh])
      rw [Step.andThen_of_none hh] at hn ⊢
      obtain ⟨hs, hhalt⟩ := ih ((dispatched_traceClosed setup v s).trans h) hn
      refine ⟨?_, ?_⟩
      · rw [hs, hafter, Lifecycle.isShuttingDown_after, List.takeWhile_cons_of_pos (by simp [hx]), List.any_cons,
          Bool.or_assoc]
      · rw [hhalt, List.any_cons, hx, Bool.false_or]
    · have hafter : (dispatched setup v s).state.lifecycle = s.lifecycle.after v :=
        dispatched_lifecycle_after h (by simp [hh])
      have hs : (dispatched setup v s).state.lifecycle.isShuttingDown = s.lifecycle.isShuttingDown := by
        rw [hafter, Lifecycle.isShuttingDown_after, isShutdown_of_isExit hx, Bool.or_false]
      rw [Step.andThen_of_some hh]
      refine ⟨by simp [hx, hs], ?_⟩
      rw [List.any_cons, hx, Bool.true_or, if_pos rfl, hh, Lifecycle.exitCode, Lifecycle.exitCode, hs]
    · rw [Step.andThen_of_some hh] at hn
      exact absurd hh (hn r)

/-- The status of a process that ends now, or ends with the first exit among these messages. -/
def statusAfter (vs : List Json) : Nat :=
  if (vs.takeWhile fun v => !isExit v).any isShutdown then 0 else 1

theorem exitCode_each (setup : Setup σ) (hd : ∀ r, setup.deliver r = none)
    (hl : ∀ host code, (setup.leave host code).1) (vs : List Json) (host : σ)
    (hn : ∀ r, (Step.each (dispatched setup) vs (.start host)).halt ≠ some (.raised r)) :
    (Step.each (dispatched setup) vs (.start host)).state.lifecycle.exitCode = statusAfter vs := by
  rw [Lifecycle.exitCode, (each_ends setup hd hl vs rfl hn).1]
  rfl

section Delivery

/-- The same server with a way out that takes every response. -/
def Setup.unfailing (setup : Setup σ) : Setup σ := { setup with deliver := fun _ => none }

variable {setup : Setup σ}

theorem Setup.IsShown.unfailing (h : setup.IsShown) : setup.unfailing.IsShown :=
  ⟨⟨h.faults.ask, h.faults.launch⟩, fun ht => ⟨(h.codes ht).ask, (h.codes ht).launch⟩⟩

theorem emit_unfailing {r : Response} {s : State σ}
    (h : ∀ r' ∈ emitted (emit setup.unfailing r s).events, setup.deliver r' = none) :
    emit setup r s = emit setup.unfailing r s := by
  have hr : setup.deliver r = none := h r (List.mem_singleton.2 rfl)
  simp only [emit, hr, Setup.unfailing]

theorem request_unfailing {id : Json} {method : Text} {params : Json} {s : State σ}
    (h : ∀ r ∈ emitted (request setup.unfailing id method params s).events, setup.deliver r = none) :
    request setup id method params s = request setup.unfailing id method params s := by
  rw [request_eq] at h ⊢
  rw [request_eq]
  refine Step.andThen_congr h (fun _ => rfl) fun s h => ?_
  refine Step.andThen_congr h (fun _ => rfl) fun s h => ?_
  exact Step.andThen_congr h (fun _ => rfl) fun s h => emit_unfailing h

theorem message_unfailing {m : Message} {s : State σ}
    (h : ∀ r ∈ emitted (message setup.unfailing m s).events, setup.deliver r = none) :
    message setup m s = message setup.unfailing m s := by
  cases m with
  | request id method params => exact request_unfailing h
  | notification method params => rfl
  | invalid id => exact emit_unfailing h

theorem process_unfailing {v : Json} {s : State σ}
    (h : ∀ r ∈ emitted (process setup.unfailing v s).events, setup.deliver r = none) :
    process setup v s = process setup.unfailing v s :=
  Step.each_congr h fun _ _ => message_unfailing

variable {r : Response} {e : Framing.WriteError}

theorem emit_undelivered {r' : Response} {s : State σ} (hr : r ∈ emitted (emit setup.unfailing r' s).events)
    (he : setup.deliver r = some e) : (emit setup r' s).halt = some (.undelivered e) := by
  obtain rfl : r = r' := List.mem_singleton.1 hr
  simp only [emit, he]

/-- A request stops the server if its response cannot be sent. -/
theorem request_undelivered {id : Json} {method : Text} {params : Json} {s : State σ}
    (hr : r ∈ emitted (request setup.unfailing id method params s).events) (he : setup.deliver r = some e) :
    (request setup id method params s).halt = some (.undelivered e) := by
  rw [request_eq] at hr ⊢
  refine Step.andThen_halt (emitted_traced ..) hr fun s hr => ?_
  refine Step.andThen_halt (emitted_replied ..) hr fun s hr => ?_
  exact Step.andThen_halt (emitted_tracedEnd ..) hr fun s hr => emit_undelivered hr he

theorem message_undelivered {m : Message} {s : State σ} (hr : r ∈ emitted (message setup.unfailing m s).events)
    (he : setup.deliver r = some e) : (message setup m s).halt = some (.undelivered e) := by
  cases m with
  | request id method params => exact request_undelivered hr he
  | notification method params =>
    rw [message, notification_eq] at hr ⊢
    refine Step.andThen_halt (emitted_traced ..) hr fun s hr => ?_
    rw [emitted_heard] at hr
    exact absurd hr List.not_mem_nil
  | invalid id => exact emit_undelivered hr he

end Delivery

section Heeding

variable {setup : Setup σ}

/-- The messages that a server handles in turn and goes on after. -/
def heeded (setup : Setup σ) : List Json → State σ → List Json
  | [], _ => []
  | v :: rest, s =>
    match (dispatched setup v s).halt with
    | none => v :: heeded setup rest (dispatched setup v s).state
    | some _ => []

theorem heeded_of_none {v : Json} {s : State σ} (h : (dispatched setup v s).halt = none) (rest : List Json) :
    heeded setup (v :: rest) s = v :: heeded setup rest (dispatched setup v s).state := by
  rw [heeded, h]

theorem heeded_of_some {v : Json} {s : State σ} {halt : Halt} (h : (dispatched setup v s).halt = some halt)
    (rest : List Json) : heeded setup (v :: rest) s = [] := by
  rw [heeded, h]

/-- Where all answers can be shown and sent, a server heeds the messages up to the first that is an exit or does not
fit. -/
theorem heeded_eq_takeWhile (hs : setup.IsShown) (hd : ∀ r, setup.deliver r = none)
    (hl : ∀ host code, (setup.leave host code).1) (vs : List Json) {s : State σ} (h : s.traceClosed = false) :
    heeded setup vs s = vs.takeWhile fun v => !isExit v && setup.fits v := by
  induction vs generalizing s with
  | nil => rfl
  | cons v rest ih =>
    rcases dispatched_turns setup hd hl (.inr h) v with ⟨hx, hh⟩ | ⟨hx, hh⟩ | ⟨r, hraises, hh⟩
    · rw [heeded_of_none hh, List.takeWhile_cons_of_pos (by simp [hx, fits_of_goesOn hh]),
        ih ((dispatched_traceClosed setup v s).trans h)]
    · rw [heeded_of_some hh, List.takeWhile_cons_of_neg (by simp [hx])]
    · rw [heeded_of_some hh, List.takeWhile_cons_of_neg (by simp [hraises.misfit hs])]

end Heeding

end Server

end LspEndpoint
