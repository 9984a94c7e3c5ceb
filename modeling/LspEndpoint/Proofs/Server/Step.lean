import LspEndpoint.Server.Basic

/-!
What steps emit and do. The responses of steps in turn are those of each, up to a stop; a step that bides adds nothing to
what was done before it; and two ways to go on that agree wherever a response can be sent agree altogether.
-/
namespace LspEndpoint.Server

variable {σ α : Type}

theorem emitted_append (first second : List Event) :
    emitted (first ++ second) = emitted first ++ emitted second :=
  List.filterMap_append

/-- The statuses with which the end of the run was asked for. -/
def exits (events : List Event) : List Nat :=
  events.filterMap fun
    | .exited code => some code
    | _ => none

/-- What is done beside answering and keeping the log and the trace: a question to the backend, a program that is
run, a way out that is asked for. -/
def Event.isDeed : Event → Bool
  | .asked _ | .launched _ | .exited _ => true
  | _ => false

def deeds (events : List Event) : List Event := events.filter Event.isDeed

theorem deeds_append (first second : List Event) : deeds (first ++ second) = deeds first ++ deeds second :=
  List.filter_append ..

/-- States with the same lifecycle and the same documents, whose traces are both closed or both not. -/
structure State.Agrees (s s' : State σ) : Prop where
  lifecycle : s.lifecycle = s'.lifecycle
  store : s.store = s'.store
  traceClosed : s.traceClosed = s'.traceClosed

namespace State.Agrees

variable {s s' s'' : State σ}

theorem refl (s : State σ) : s.Agrees s := ⟨rfl, rfl, rfl⟩

theorem trans (h : s.Agrees s') (h' : s'.Agrees s'') : s.Agrees s'' :=
  ⟨h.lifecycle.trans h'.lifecycle, h.store.trans h'.store, h.traceClosed.trans h'.traceClosed⟩

end State.Agrees

namespace Step

theorem andThen_of_none {a : Step σ} (h : a.halt = none) (next : State σ → Step σ) :
    a.andThen next = ⟨(next a.state).state, a.events ++ (next a.state).events, (next a.state).halt⟩ := by
  simp only [andThen, h]

theorem andThen_of_some {a : Step σ} {halt : Halt} (h : a.halt = some halt)
    (next : State σ → Step σ) : a.andThen next = a := by
  simp only [andThen, h]

/-- What the first step establishes and every way to go on keeps holds in the end. -/
theorem andThen_state {P : State σ → Prop} {a : Step σ} {next : State σ → Step σ} (ha : P a.state)
    (hn : ∀ u, P u → P (next u).state) : P (a.andThen next).state := by
  cases h : a.halt with
  | some halt => rwa [andThen_of_some h]
  | none =>
    rw [andThen_of_none h]
    exact hn a.state ha

@[simp] theorem raising_andThen (s : State σ) (r : Raised) (next : State σ → Step σ) :
    (raising s r).andThen next = raising s r :=
  rfl

theorem each_flatMap {β : Type} (f : α → State σ → Step σ) (g : β → List α) (bs : List β) :
    each f (bs.flatMap g) = each (fun b => each f (g b)) bs := by
  funext s
  induction bs generalizing s with
  | nil => rfl
  | cons b rest ih =>
    rw [List.flatMap_cons, each_append, each]
    exact congrArg _ (funext ih)

theorem each_map {β : Type} (f : α → State σ → Step σ) (g : β → α) (bs : List β) :
    each f (bs.map g) = each (fun b => f (g b)) bs := by
  funext s
  induction bs generalizing s with
  | nil => rfl
  | cons b rest ih =>
    rw [List.map_cons, each, each]
    exact congrArg _ (funext ih)

section Biding

/-- A step that does nothing, and leaves the lifecycle, the documents and the trace as they were; it may answer, note and
record, and it may be stopped. -/
structure Bides (a : Step σ) (s : State σ) : Prop where
  agrees : a.state.Agrees s
  deeds : deeds a.events = []

theorem still_bides (s : State σ) : (still s).Bides s := ⟨.refl s, rfl⟩

theorem raising_bides (s : State σ) (r : Raised) : (raising s r).Bides s := ⟨.refl s, rfl⟩

variable {a : Step σ} {s : State σ} {next : State σ → Step σ}

/-- What bides after a step leaves what that step left and did. -/
theorem andThen_bides (hn : ∀ u, (next u).Bides u) :
    (a.andThen next).state.Agrees a.state ∧ Server.deeds (a.andThen next).events = Server.deeds a.events := by
  cases h : a.halt with
  | some halt =>
    rw [andThen_of_some h]
    exact ⟨.refl _, rfl⟩
  | none =>
    rw [andThen_of_none h]
    refine ⟨(hn a.state).agrees, ?_⟩
    rw [deeds_append, (hn a.state).deeds, List.append_nil]

theorem Bides.andThen (h : a.Bides s) (hn : ∀ u, (next u).Bides u) : (a.andThen next).Bides s := by
  obtain ⟨hstate, hdeeds⟩ := andThen_bides (a := a) hn
  exact ⟨hstate.trans h.agrees, hdeeds.trans h.deeds⟩

end Biding

section Sending

/-- The step sends this response and goes on, or is stopped because it cannot be sent. -/
def Sends (setup : Setup σ) (a : Step σ) (r : Rpc.Response) : Prop :=
  match setup.deliver r with
  | none => emitted a.events = [r] ∧ a.halt = none
  | some e => emitted a.events = [] ∧ a.halt = some (.undelivered e)

/-- The step sends nothing, and what is raised stops it. -/
structure Raises (a : Step σ) (r : Raised) : Prop where
  emitted : emitted a.events = []
  halt : a.halt = some (.raised r)

theorem raising_raises (s : State σ) (r : Raised) : (raising s r).Raises r := ⟨rfl, rfl⟩

variable {setup : Setup σ} {a b : Step σ} {r : Rpc.Response}

theorem Sends.congr (h : b.Sends setup r) (he : Server.emitted a.events = Server.emitted b.events)
    (hh : a.halt = b.halt) : a.Sends setup r := by
  rw [Sends, he, hh]
  exact h

theorem Sends.not_raised (h : a.Sends setup r) (x : Raised) : a.halt ≠ some (.raised x) := by
  unfold Sends at h
  split at h <;> simp [h.2]

theorem Sends.of_delivered (h : a.Sends setup r) (hd : setup.deliver r = none) :
    Server.emitted a.events = [r] ∧ a.halt = none := by
  rwa [Sends, hd] at h

theorem Sends.eq_of_mem (h : a.Sends setup r) {r' : Rpc.Response} (hr : r' ∈ Server.emitted a.events) :
    r' = r ∧ setup.deliver r = none := by
  unfold Sends at h
  split at h
  · rename_i hd
    rw [h.1, List.mem_singleton] at hr
    exact ⟨hr, hd⟩
  · rw [h.1] at hr
    exact absurd hr List.not_mem_nil

/-- What follows a step that emits nothing and goes on is what is emitted, and how it stops. -/
theorem emitted_andThen (he : Server.emitted a.events = []) (hh : a.halt = none) (next : State σ → Step σ) :
    Server.emitted (a.andThen next).events = Server.emitted (next a.state).events ∧
      (a.andThen next).halt = (next a.state).halt := by
  rw [andThen_of_none hh, emitted_append, he, List.nil_append]
  exact ⟨rfl, rfl⟩

/-- Where a way to go on emits something after a step that emits nothing, the step goes on to it; so another way to go on
is stopped as it is stopped from there. -/
theorem andThen_halt {f g : State σ → Step σ} {halt : Option Halt} (he : Server.emitted a.events = [])
    (hr : r ∈ Server.emitted (a.andThen g).events) (hfg : ∀ s, r ∈ Server.emitted (g s).events → (f s).halt = halt) :
    (a.andThen f).halt = halt := by
  cases h : a.halt with
  | some stop =>
    rw [andThen_of_some h, he] at hr
    exact absurd hr List.not_mem_nil
  | none =>
    rw [(emitted_andThen he h g).1] at hr
    rw [(emitted_andThen he h f).2]
    exact hfg a.state hr

end Sending

section Congruence

variable {P : Rpc.Response → Prop}

/-- Ways to go on need to agree only where all that is emitted has the property. -/
theorem andThen_congr {a b : Step σ} {f g : State σ → Step σ}
    (h : ∀ r ∈ Server.emitted (b.andThen g).events, P r)
    (hab : (∀ r ∈ Server.emitted b.events, P r) → a = b)
    (hfg : ∀ s, (∀ r ∈ Server.emitted (g s).events, P r) → f s = g s) :
    a.andThen f = b.andThen g := by
  cases hb : b.halt with
  | some halt =>
    rw [andThen_of_some hb] at h ⊢
    rw [hab h, andThen_of_some hb]
  | none =>
    rw [andThen_of_none hb] at h
    simp only [emitted_append, List.mem_append] at h
    rw [hab fun r hr => h r (.inl hr), andThen_of_none hb, andThen_of_none hb,
      hfg b.state fun r hr => h r (.inr hr)]

theorem each_congr {f g : α → State σ → Step σ} {as : List α} {s : State σ}
    (h : ∀ r ∈ Server.emitted (each g as s).events, P r)
    (hfg : ∀ a s, (∀ r ∈ Server.emitted (g a s).events, P r) → f a s = g a s) :
    each f as s = each g as s := by
  induction as generalizing s with
  | nil => rfl
  | cons a rest ih =>
    rw [each] at h
    exact andThen_congr h (hfg a s) fun _ => ih

end Congruence

end Step

end LspEndpoint.Server
