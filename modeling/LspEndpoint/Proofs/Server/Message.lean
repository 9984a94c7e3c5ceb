import LspEndpoint.Proofs.Server.Step
import LspEndpoint.Server.Route

/-!
What one message makes a server do. A request is traced, handled and concluded: its handler does one of a few things,
what that comes to is told in a reply, and the reply is traced and sent, unless something is raised first. A
notification is traced and heard, and it is not answered.
-/
namespace LspEndpoint

theorem RequestMethod.ofText?_eq_some {method : Text} {m : RequestMethod} :
    ofText? method = some m ↔ method = Text.ofString m.method := by
  constructor
  · exact method_of_findNamed?
  · rintro rfl
    exact ofText?_method m

theorem NotificationMethod.ofText?_eq_exit {method : Text} :
    ofText? method = some .exit ↔ method = Text.ofString "exit" := by
  constructor
  · exact method_of_findNamed?
  · rintro rfl
    exact ofText?_method .exit

theorem ChangeError.isShown_fault (e : ChangeError) : e.fault.isShown := by
  cases e <;> rfl

theorem Fault.raised?_eq_some {f : Fault} {r : Raised} : f.raised? = some r ↔ f.display = .error r := by
  unfold raised?
  cases f.display <;> simp

theorem Fault.isShown_iff {f : Fault} : f.isShown ↔ ∃ shown, f.display = .ok shown := by
  unfold isShown raised?
  cases f.display <;> simp

theorem Command.path_faulty {params : Json} {f : Fault} (h : Command.path params = .error (.faulty f)) :
    ∃ e, f = .uri e := by
  unfold Command.path at h
  split at h
  · cases h
  · split at h
    · rename_i e _
      cases e with
      | malformed e =>
        cases h
        exact ⟨e, rfl⟩
      | rejected e => cases h
    · cases h

namespace Server

variable {σ : Type}

/-- There is no trace, or it is not closed. -/
def IsOpen (setup : Setup σ) (s : State σ) : Prop := setup.tracing = none ∨ s.traceClosed = false

theorem IsOpen.of_closed {setup : Setup σ} {s s' : State σ} (h : IsOpen setup s)
    (hs : s'.traceClosed = s.traceClosed) : IsOpen setup s' := by
  rcases h with h | h
  · exact .inl h
  · exact .inr (hs.trans h)

/-- The trace, if there is one, has room for what is nested that deep. -/
def Setup.hasRoom (setup : Setup σ) (depth : Nat) : Bool := setup.tracing.all fun t => depth ≤ t.depth

/-- The trace, if there is one, has a name for how the request came out. -/
def Setup.canName (setup : Setup σ) (r : Rpc.Response) : Bool := setup.tracing.isNone || r.status?.isSome

section Tracing

variable {setup : Setup σ} {e : Trace.Event} {s : State σ}

theorem Setup.hasRoom_iff {depth : Nat} : setup.hasRoom depth ↔ ∀ t ∈ setup.tracing, depth ≤ t.depth := by
  cases h : setup.tracing <;> simp [hasRoom, h]

/-- What becomes of an event that is to be traced: there is no trace, the event is too deep for it, it is closed, its line
is written, or its line fails. -/
inductive Traces (setup : Setup σ) (e : Trace.Event) (s : State σ) : Step σ → Prop
  | untraced (absent : setup.tracing = none) : Traces setup e s (.still s)
  | tooDeep (deep : setup.hasRoom e.depth = false) : Traces setup e s (.raising s .tooDeep)
  | closed {t : Tracing σ} (present : setup.tracing = some t) (isClosed : s.traceClosed) :
      Traces setup e s ⟨s, [], some .traceClosed⟩
  | written {t : Tracing σ} (present : setup.tracing = some t) (isOpen : s.traceClosed = false)
      (taken : (t.write s.host (e.line t.limit (t.time s.linesTried))).1 = none) :
      Traces setup e s
        ⟨{ s with host := (t.write s.host (e.line t.limit (t.time s.linesTried))).2, linesTried := s.linesTried + 1 },
          [.traced (t.time s.linesTried) e], none⟩
  | failed {t : Tracing σ} {r : File.Refusal} (present : setup.tracing = some t) (isOpen : s.traceClosed = false)
      (untaken : (t.write s.host (e.line t.limit (t.time s.linesTried))).1 = some r) :
      Traces setup e s
        ⟨{ s with host := (t.write s.host (e.line t.limit (t.time s.linesTried))).2, linesTried := s.linesTried + 1 },
          [.logged (writeFault r)], none⟩

theorem traced_traces (setup : Setup σ) (e : Trace.Event) (s : State σ) : Traces setup e s (traced setup e s) := by
  unfold traced
  cases ht : setup.tracing with
  | none => exact .untraced ht
  | some t =>
    dsimp only
    split
    · rename_i hd
      exact .tooDeep (by simpa [Setup.hasRoom, ht] using hd)
    · split
      · exact .closed ht ‹_›
      · rename_i hc
        have ho : s.traceClosed = false := Bool.eq_false_iff.2 hc
        split
        · exact .written ht ho ‹_›
        · exact .failed ht ho ‹_›

theorem traced_of_deep (h : setup.hasRoom e.depth = false) (s : State σ) : traced setup e s = .raising s .tooDeep := by
  cases ht : setup.tracing with
  | none => simp [Setup.hasRoom, ht] at h
  | some t =>
    have hd : t.depth < e.depth := by simpa [Setup.hasRoom, ht] using h
    simp only [traced, ht, if_pos hd]

theorem Traces.bides {a : Step σ} (h : Traces setup e s a) : a.Bides s := by
  cases h <;> exact ⟨⟨rfl, rfl, rfl⟩, rfl⟩

theorem Traces.emitted {a : Step σ} (h : Traces setup e s a) : Server.emitted a.events = [] := by
  cases h <;> rfl

theorem traced_bides (setup : Setup σ) (e : Trace.Event) (s : State σ) : (traced setup e s).Bides s :=
  (traced_traces setup e s).bides

theorem emitted_traced (setup : Setup σ) (e : Trace.Event) (s : State σ) : emitted (traced setup e s).events = [] :=
  (traced_traces setup e s).emitted

/-- Where the trace is open and has room, a server goes on, whether the line is taken or not. -/
theorem traced_goesOn (ho : IsOpen setup s) (hr : setup.hasRoom e.depth) : (traced setup e s).halt = none := by
  have h := traced_traces setup e s
  generalize traced setup e s = a at h
  cases h with
  | tooDeep deep =>
    rw [hr] at deep
    cases deep
  | closed present isClosed =>
    rcases ho with ho | ho
    · cases ho.symm.trans present
    · cases ho.symm.trans isClosed
  | _ => rfl

theorem tracedEnd_of_named {start : Binary64} {r : Rpc.Response} {status : Text} (ht : setup.tracing.isSome)
    (h : r.status? = some status) (s : State σ) :
    tracedEnd setup start r s =
      traced setup (.response r.id status (.float (duration start (setup.clock s.clockReads)))) (tick s) := by
  obtain ⟨t, ht⟩ := Option.isSome_iff_exists.1 ht
  simp only [tracedEnd, ht, h]

theorem tracedEnd_of_unnamed {start : Binary64} {r : Rpc.Response} (h : setup.canName r = false) (s : State σ) :
    tracedEnd setup start r s = .raising s .tooManyDigits := by
  simp only [Setup.canName, Bool.or_eq_false_iff, Option.isNone_eq_false_iff, Option.isSome_eq_false_iff,
    Option.isNone_iff_eq_none] at h
  obtain ⟨t, ht⟩ := Option.isSome_iff_exists.1 h.1
  simp only [tracedEnd, ht, h.2]

theorem tracedEnd_cases (setup : Setup σ) (start : Binary64) (r : Rpc.Response) (s : State σ) :
    (setup.tracing = none ∧ tracedEnd setup start r s = .still s) ∨
      (setup.canName r = false ∧ tracedEnd setup start r s = .raising s .tooManyDigits) ∨
      ∃ status, r.status? = some status ∧ setup.tracing.isSome ∧ tracedEnd setup start r s =
        traced setup (.response r.id status (.float (duration start (setup.clock s.clockReads)))) (tick s) := by
  cases ht : setup.tracing with
  | none => exact .inl ⟨rfl, by simp only [tracedEnd, ht]⟩
  | some t =>
    have hsome : setup.tracing.isSome := by rw [ht]; rfl
    cases hs : r.status? with
    | none =>
      have hn : setup.canName r = false := by simp [Setup.canName, ht, hs]
      exact .inr (.inl ⟨hn, tracedEnd_of_unnamed hn s⟩)
    | some status => exact .inr (.inr ⟨status, rfl, rfl, tracedEnd_of_named hsome hs s⟩)

theorem tracedEnd_bides (setup : Setup σ) (start : Binary64) (r : Rpc.Response) (s : State σ) :
    (tracedEnd setup start r s).Bides s := by
  rcases tracedEnd_cases setup start r s with ⟨-, h⟩ | ⟨-, h⟩ | ⟨status, -, -, h⟩
  · exact h ▸ Step.still_bides s
  · exact h ▸ Step.raising_bides s _
  · obtain ⟨⟨lifecycle, store, traceClosed⟩, hd⟩ := traced_bides setup
      (.response r.id status (.float (duration start (setup.clock s.clockReads)))) (tick s)
    exact h ▸ ⟨⟨lifecycle, store, traceClosed⟩, hd⟩

theorem emitted_tracedEnd (setup : Setup σ) (start : Binary64) (r : Rpc.Response) (s : State σ) :
    emitted (tracedEnd setup start r s).events = [] := by
  rcases tracedEnd_cases setup start r s with ⟨-, h⟩ | ⟨-, h⟩ | ⟨status, -, -, h⟩
  · exact h ▸ rfl
  · exact h ▸ rfl
  · exact h ▸ emitted_traced setup _ _

theorem tracedEnd_goesOn {start : Binary64} {r : Rpc.Response} (ho : IsOpen setup s) (hn : setup.canName r) :
    (tracedEnd setup start r s).halt = none := by
  rcases tracedEnd_cases setup start r s with ⟨-, h⟩ | ⟨hf, -⟩ | ⟨status, -, -, h⟩
  · exact h ▸ rfl
  · rw [hn] at hf
    cases hf
  · rw [h]
    exact traced_goesOn (ho.of_closed rfl) (Setup.hasRoom_iff.2 fun _ _ => Nat.zero_le _)

end Tracing

section Concluding

variable (setup : Setup σ)

theorem emit_state (r : Rpc.Response) (s : State σ) : (emit setup r s).state = s := by
  unfold emit
  split <;> rfl

theorem emit_bides (r : Rpc.Response) (s : State σ) : (emit setup r s).Bides s := by
  unfold emit
  split <;> exact ⟨.refl s, rfl⟩

theorem emit_sends (r : Rpc.Response) (s : State σ) : (emit setup r s).Sends setup r := by
  unfold emit Step.Sends
  cases setup.deliver r <;> exact ⟨rfl, rfl⟩

/-- How a request ends that is replied to: its end is traced, and its response is sent. -/
def concluded (start : Binary64) (r : Rpc.Response) (s : State σ) : Step σ :=
  (tracedEnd setup start r s).andThen (emit setup r)

theorem concluded_bides (start : Binary64) (r : Rpc.Response) (s : State σ) : (concluded setup start r s).Bides s :=
  (tracedEnd_bides setup start r s).andThen (emit_bides setup r)

theorem concluded_state (start : Binary64) (r : Rpc.Response) (s : State σ) :
    (concluded setup start r s).state = (tracedEnd setup start r s).state :=
  Step.andThen_state (P := fun u => u = (tracedEnd setup start r s).state) rfl
    fun u hu => (emit_state setup r u).trans hu

variable {setup} {s : State σ} {start : Binary64} {r : Rpc.Response}

theorem concluded_of_unnamed (h : setup.canName r = false) : concluded setup start r s = .raising s .tooManyDigits := by
  rw [concluded, tracedEnd_of_unnamed h, Step.raising_andThen]

theorem concluded_sends (ho : IsOpen setup s) (hn : setup.canName r) : (concluded setup start r s).Sends setup r := by
  obtain ⟨he, hh⟩ := Step.emitted_andThen (emitted_tracedEnd setup start r s) (tracedEnd_goesOn ho hn) (emit setup r)
  exact (emit_sends setup r _).congr he hh

end Concluding

section Handlers

/-- What a handler does: it refuses params that are unsound, comes to a fault over them, accepts a client, notes the
shutdown, runs the program of a command, or asks the backend. -/
inductive Handles (setup : Setup σ) (s : State σ) : RequestMethod → Handled σ → Prop
  | refused (m : RequestMethod) (e : Params.Error) : Handles setup s m (.refused s e)
  | faulted (e : Uri.Error) : Handles setup s .executeCommand ⟨s, [], .fault (.uri e)⟩
  | accepted (p : InitializeParams) :
      Handles setup s .initialization ⟨{ s with lifecycle := s.lifecycle.accept p }, [.logged (greeting p)],
        .reply (welcomed setup.serverInfo p)⟩
  | shutDown :
      Handles setup s .shutdown ⟨{ s with lifecycle := s.lifecycle.shutDown }, [], .reply (.result .null)⟩
  | launched (argv : List Text) :
      Handles setup s .executeCommand ⟨{ s with host := (setup.launch s.host argv).2 }, [.launched argv],
        outcomeOf ((setup.launch s.host argv).1.map Command.result)⟩
  | asked (operation : Operation) (q : Query) :
      Handles setup s (.document operation)
        ⟨{ s with store := (setup.ask s.host s.store q).2.1, host := (setup.ask s.host s.store q).2.2 }, [.asked q],
          outcomeOf (setup.ask s.host s.store q).1⟩

theorem handled_handles (setup : Setup σ) (m : RequestMethod) (params : Json) (s : State σ) :
    Handles setup s m (handled setup m params s) := by
  cases m with
  | initialization =>
    simp only [handled, initialized]
    split
    · exact .refused _ _
    · exact .accepted _
  | shutdown => exact .shutDown
  | executeCommand =>
    simp only [handled, executed]
    split
    · exact .refused _ _
    · rename_i f hf
      obtain ⟨e, rfl⟩ := Command.path_faulty hf
      exact .faulted e
    · exact .launched _
  | document operation =>
    simp only [handled, queried]
    split
    · exact .refused _ _
    · exact .asked operation _

/-- How a handler that ended so is answered; of a fault no more is told than the method. -/
def Outcome.told (method : Text) : Outcome → Rpc.Reply
  | .reply r => r
  | .fault _ => internalError method

/-- What is raised where such an end is noted. -/
def Outcome.raised? : Outcome → Option Raised
  | .reply _ => none
  | .fault f => f.raised?

theorem outcomeOf_ne_unwritable (a : Answer) (e : Unwritable) :
    outcomeOf a ≠ .reply (.unwritable e) := by
  cases a <;> exact fun h => by cases h

variable {setup : Setup σ} {s : State σ} {m : RequestMethod} {h : Handled σ}

theorem Handles.traceClosed (hh : Handles setup s m h) : h.state.traceClosed = s.traceClosed := by
  cases hh <;> rfl

theorem Handles.emitted (hh : Handles setup s m h) : emitted h.events = [] := by
  cases hh <;> rfl

theorem Handles.exits (hh : Handles setup s m h) : exits h.events = [] := by
  cases hh <;> rfl

/-- What neither a question nor a program changes in the host is as it was. -/
theorem Handles.host {α : Type} {look : σ → α}
    (ask : ∀ store q, look (setup.ask s.host store q).2.2 = look s.host)
    (launch : ∀ argv, look (setup.launch s.host argv).2 = look s.host) (hh : Handles setup s m h) :
    look h.state.host = look s.host := by
  cases hh with
  | asked operation q => exact ask ..
  | launched argv => exact launch argv
  | _ => rfl

theorem Handles.unwritable (hh : Handles setup s m h) {e : Unwritable} (ho : h.outcome = .reply (.unwritable e)) :
    setup.serverInfo = .error e := by
  cases hh with
  | refused m e' => cases ho
  | faulted e' => cases ho
  | accepted p =>
    simp only [welcomed] at ho
    split at ho
    · cases ho
    · cases ho
      assumption
  | shutDown => cases ho
  | launched argv => exact absurd ho (outcomeOf_ne_unwritable _ e)
  | asked operation q => exact absurd ho (outcomeOf_ne_unwritable _ e)

/-- What a handler did and came to, noted and told in a reply. -/
structure Conveys (method : Text) (h : Handled σ) (p : Step σ × Rpc.Reply) : Prop where
  state : p.1.state = h.state
  halt : p.1.halt = h.outcome.raised?.map .raised
  reply : p.2 = h.outcome.told method
  emitted : Server.emitted p.1.events = Server.emitted h.events
  deeds : Server.deeds p.1.events = Server.deeds h.events

theorem replied_conveys {method : Text} (hm : RequestMethod.ofText? method = some m) (setup : Setup σ) (params : Json)
    (s : State σ) : Conveys method (handled setup m params s) (replied setup method params s) := by
  rw [replied, hm]
  dsimp only
  generalize handled setup m params s = h
  obtain ⟨state, events, outcome⟩ := h
  cases outcome with
  | reply r => exact ⟨rfl, rfl, rfl, rfl, rfl⟩
  | fault f =>
    simp only [note, Step.andThen]
    cases hd : f.display with
    | ok shown =>
      have hf : f.raised? = none := by rw [Fault.raised?, hd]
      refine ⟨rfl, by simp [Outcome.raised?, hf, Step.did], rfl, ?_, ?_⟩
      · simp [Step.did, Server.emitted]
      · simp [Step.did, Server.deeds, Event.isDeed]
    | error r =>
      have hf := Fault.raised?_eq_some.2 hd
      exact ⟨rfl, by simp [Outcome.raised?, hf, Step.raising], rfl, by simp [Step.raising], by simp [Step.raising]⟩

theorem replied_of_unknown {method : Text} (h : RequestMethod.ofText? method = none) (setup : Setup σ) (params : Json)
    (s : State σ) : replied setup method params s = (.still s, unknownMethod method) := by
  rw [replied, h]

/-- A request does what the handler of its method does, if that is known, and nothing otherwise. -/
theorem replied_cases (setup : Setup σ) (method : Text) (params : Json) (s : State σ) :
    replied setup method params s = (.still s, unknownMethod method) ∨
      ∃ m h, RequestMethod.ofText? method = some m ∧ h = handled setup m params s ∧ Handles setup s m h ∧
        Conveys method h (replied setup method params s) := by
  cases hm : RequestMethod.ofText? method with
  | none => exact .inl (replied_of_unknown hm setup params s)
  | some m => exact .inr ⟨m, _, rfl, rfl, handled_handles setup m params s, replied_conveys hm setup params s⟩

theorem emitted_replied (setup : Setup σ) (method : Text) (params : Json) (s : State σ) :
    emitted (replied setup method params s).1.events = [] := by
  rcases replied_cases setup method params s with h | ⟨m, h, -, -, hh, hc⟩
  · rw [h]
    rfl
  · rw [hc.emitted, hh.emitted]

theorem replied_traceClosed (setup : Setup σ) (method : Text) (params : Json) (s : State σ) :
    (replied setup method params s).1.state.traceClosed = s.traceClosed := by
  rcases replied_cases setup method params s with h | ⟨m, h, -, -, hh, hc⟩
  · rw [h]
    rfl
  · rw [hc.state, hh.traceClosed]

theorem replied_unwritable {method : Text} {params : Json} {e : Unwritable}
    (he : (replied setup method params s).2 = .unwritable e) : setup.serverInfo = .error e := by
  rcases replied_cases setup method params s with h | ⟨m, h, -, -, hh, hc⟩
  · rw [h] at he
    cases he
  · rw [hc.reply] at he
    cases ho : h.outcome with
    | reply r =>
      rw [ho] at he
      exact hh.unwritable (ho.trans (congrArg _ he))
    | fault f =>
      rw [ho] at he
      cases he

/-- A handler is stopped only by what is raised where its fault is noted. -/
theorem replied_halt (setup : Setup σ) (method : Text) (params : Json) (s : State σ) :
    (replied setup method params s).1.halt = none ∨ ∃ r, (replied setup method params s).1.halt = some (.raised r) := by
  rcases replied_cases setup method params s with h | ⟨m, h, -, -, hh, hc⟩
  · rw [h]
    exact .inl rfl
  · rw [hc.halt]
    cases h.outcome.raised? with
    | none => exact .inl rfl
    | some r => exact .inr ⟨r, rfl⟩

/-- Something is raised where a request is handled exactly if the handler of its method comes to a fault that cannot be
shown. -/
theorem replied_raises_iff {method : Text} {params : Json} {r : Raised} :
    (replied setup method params s).1.halt = some (.raised r) ↔ ∃ m f, RequestMethod.ofText? method = some m ∧
      (handled setup m params s).outcome = .fault f ∧ f.display = .error r := by
  cases hm : RequestMethod.ofText? method with
  | none => simp [replied_of_unknown hm, Step.still]
  | some m =>
    rw [(replied_conveys hm setup params s).halt]
    cases ho : (handled setup m params s).outcome with
    | reply r => simp [Outcome.raised?, ho]
    | fault f => simp [Outcome.raised?, ho, Fault.raised?_eq_some]

end Handlers

section Requests

variable (setup : Setup σ) (id : Json) (method : Text) (params : Json) (s : State σ)

/-- The state in which the handler of a request runs. -/
def begun : State σ := tick (traced setup (.request id method params) s).state

/-- The response to a request, unless something is raised first. -/
def responseTo : Rpc.Response := ⟨id, (replied setup method params (begun setup id method params s)).2⟩

theorem begun_agrees : (begun setup id method params s).Agrees s := by
  obtain ⟨lifecycle, store, traceClosed⟩ := (traced_bides setup (.request id method params) s).agrees
  exact ⟨lifecycle, store, traceClosed⟩

theorem request_eq :
    request setup id method params s = (traced setup (.request id method params) s).andThen fun u =>
      (replied setup method params (tick u)).1.andThen
        (concluded setup (setup.clock u.clockReads) ⟨id, (replied setup method params (tick u)).2⟩) :=
  rfl

variable {setup params s}

theorem request_of_deep (h : setup.hasRoom params.depth = false) :
    request setup id method params s = .raising s .tooDeep := by
  rw [request_eq, traced_of_deep h, Step.raising_andThen]

/-- A request for which the trace has room is begun and handled, and what is raised stops it. -/
theorem request_of_raised (ho : IsOpen setup s) (hr : setup.hasRoom params.depth) {r : Raised}
    (hh : (replied setup method params (begun setup id method params s)).1.halt = some (.raised r)) :
    request setup id method params s = ⟨(replied setup method params (begun setup id method params s)).1.state,
      (traced setup (.request id method params) s).events ++
        (replied setup method params (begun setup id method params s)).1.events, some (.raised r)⟩ := by
  have hgoes : (traced setup (.request id method params) s).halt = none := traced_goesOn ho hr
  rw [request_eq, Step.andThen_of_none hgoes]
  rw [begun] at hh
  rw [Step.andThen_of_some hh, hh]
  rfl

/-- A request for which the trace has room is begun, handled and concluded, if nothing is raised. -/
theorem request_of_replied (ho : IsOpen setup s) (hr : setup.hasRoom params.depth)
    (hh : (replied setup method params (begun setup id method params s)).1.halt = none) :
    ∃ c, c = concluded setup (setup.clock (traced setup (.request id method params) s).state.clockReads)
        (responseTo setup id method params s) (replied setup method params (begun setup id method params s)).1.state ∧
      request setup id method params s = ⟨c.state, (traced setup (.request id method params) s).events ++
        ((replied setup method params (begun setup id method params s)).1.events ++ c.events), c.halt⟩ := by
  have hgoes : (traced setup (.request id method params) s).halt = none := traced_goesOn ho hr
  refine ⟨_, rfl, ?_⟩
  rw [request_eq, Step.andThen_of_none hgoes]
  rw [begun] at hh
  rw [Step.andThen_of_none hh]
  rfl

/-- What a request comes to for which the trace has room: it leaves what its handler leaves and does what its handler
does; then what is raised stops it, or its response is sent. -/
structure Attended (setup : Setup σ) (id : Json) (method : Text) (params : Json) (s : State σ) : Prop where
  state : (request setup id method params s).state.Agrees
    (replied setup method params (begun setup id method params s)).1.state
  deeds : deeds (request setup id method params s).events =
    deeds (replied setup method params (begun setup id method params s)).1.events
  raises : ∀ r, (replied setup method params (begun setup id method params s)).1.halt = some (.raised r) →
    (request setup id method params s).Raises r
  unnamed : (replied setup method params (begun setup id method params s)).1.halt = none →
    setup.canName (responseTo setup id method params s) = false →
      (request setup id method params s).Raises .tooManyDigits
  sends : (replied setup method params (begun setup id method params s)).1.halt = none →
    setup.canName (responseTo setup id method params s) →
      (request setup id method params s).Sends setup (responseTo setup id method params s)

theorem request_attended (setup : Setup σ) (id : Json) (method : Text) {params : Json} {s : State σ}
    (ho : IsOpen setup s) (hr : setup.hasRoom params.depth) :
    Attended setup id method params s := by
  have hclosed := (replied_traceClosed setup method params (begun setup id method params s)).trans
    (begun_agrees setup id method params s).traceClosed
  have hopen : IsOpen setup (replied setup method params (begun setup id method params s)).1.state :=
    ho.of_closed hclosed
  have hsilent := emitted_replied setup method params (begun setup id method params s)
  have htraced := emitted_traced setup (.request id method params) s
  have hidle := (traced_bides setup (.request id method params) s).deeds
  rcases replied_halt setup method params (begun setup id method params s) with hh | ⟨x, hh⟩
  · obtain ⟨c, hc, heq⟩ := request_of_replied id method ho hr hh
    have hbides : c.Bides (replied setup method params (begun setup id method params s)).1.state :=
      hc ▸ concluded_bides ..
    have hemitted : emitted (request setup id method params s).events = emitted c.events := by
      rw [heq, emitted_append, emitted_append, htraced, hsilent]
      rfl
    have hhalt : (request setup id method params s).halt = c.halt := by rw [heq]
    constructor
    case state => exact heq ▸ hbides.agrees
    case deeds => rw [heq, deeds_append, deeds_append, hidle, hbides.deeds, List.nil_append, List.append_nil]
    case raises => exact fun r hr => by cases hh.symm.trans hr
    case unnamed =>
      intro _ hn
      rw [concluded_of_unnamed hn] at hc
      subst hc
      exact ⟨hemitted, hhalt⟩
    case sends => exact fun _ hn => (concluded_sends hopen hn).congr (hc ▸ hemitted) (hc ▸ hhalt)
  · have heq := request_of_raised id method ho hr hh
    constructor
    case state =>
      rw [heq]
      exact .refl _
    case deeds => rw [heq, deeds_append, hidle, List.nil_append]
    case raises =>
      intro r hr
      cases hh.symm.trans hr
      rw [heq]
      exact ⟨by rw [emitted_append, htraced, hsilent]; rfl, rfl⟩
    case unnamed => exact fun hn => by cases hh.symm.trans hn
    case sends => exact fun hn => by cases hh.symm.trans hn

/-- A request is answered, or something is raised in its place. -/
theorem Attended.sends_or (h : Attended setup id method params s) :
    (request setup id method params s).Sends setup (responseTo setup id method params s) ∨
      ∃ r, (request setup id method params s).Raises r := by
  rcases replied_halt setup method params (begun setup id method params s) with hh | ⟨r, hh⟩
  · cases hn : setup.canName (responseTo setup id method params s) with
    | true => exact .inl (h.sends hh hn)
    | false => exact .inr ⟨_, h.unnamed hh hn⟩
  · exact .inr ⟨r, h.raises r hh⟩

end Requests

section Notifications

variable (setup : Setup σ) (method : Text) (params : Json)

/-- What the handler of a notification does. -/
def heard (s : State σ) : Step σ :=
  match NotificationMethod.ofText? method with
  | none => .still s
  | some .exit => exited setup s
  | some m =>
    let (store, failure) := notified m params s.store
    let s := { s with store }
    match failure with
    | none => .still s
    | some f => note (notificationFault method) f s

theorem notification_eq (s : State σ) :
    notification setup method params s =
      (traced setup (.notification method params) s).andThen (heard setup method params) :=
  rfl

variable {setup method params}

theorem notification_of_deep (h : setup.hasRoom params.depth = false) (s : State σ) :
    notification setup method params s = .raising s .tooDeep := by
  rw [notification_eq, traced_of_deep h, Step.raising_andThen]

/-- A notification for which the trace has room is one that is heard once it is traced. -/
theorem notification_begun {s : State σ} (ho : IsOpen setup s) (hr : setup.hasRoom params.depth) :
    notification setup method params s =
      ⟨(heard setup method params (traced setup (.notification method params) s).state).state,
        (traced setup (.notification method params) s).events ++
          (heard setup method params (traced setup (.notification method params) s).state).events,
        (heard setup method params (traced setup (.notification method params) s).state).halt⟩ := by
  have hgoes : (traced setup (.notification method params) s).halt = none := traced_goesOn ho hr
  rw [notification_eq, Step.andThen_of_none hgoes]

/-- Whatever goes wrong with a notification can be shown. -/
theorem notified_isShown {m : NotificationMethod} {store : Store} {f : Fault}
    (h : (notified m params store).2 = some f) : f.isShown := by
  cases m with
  | exit => cases h
  | didOpen =>
    simp only [notified] at h
    split at h <;> cases h
    rfl
  | didClose =>
    simp only [notified] at h
    split at h <;> cases h
    rfl
  | didChange =>
    simp only [notified] at h
    split at h
    · cases h
      rfl
    · obtain ⟨e, -, rfl⟩ := Option.map_eq_some_iff.1 h
      exact e.isShown_fault

/-- What is heard: an exit, or nothing that is known, or a notice, which may fail. -/
inductive Hears (setup : Setup σ) (method : Text) (params : Json) (s : State σ) : Step σ → Prop
  | unknown (unknown : NotificationMethod.ofText? method = none) : Hears setup method params s (.still s)
  | exited (known : NotificationMethod.ofText? method = some .exit) : Hears setup method params s (exited setup s)
  | noticed {m : NotificationMethod} (known : NotificationMethod.ofText? method = some m) (isNotice : m ≠ .exit)
      (sound : (notified m params s.store).2 = none) :
      Hears setup method params s (.still { s with store := (notified m params s.store).1 })
  | failed {m : NotificationMethod} {f : Fault} {shown : Text}
      (known : NotificationMethod.ofText? method = some m) (isNotice : m ≠ .exit)
      (failed : (notified m params s.store).2 = some f) (isShown : f.display = .ok shown) :
      Hears setup method params s
        (.did { s with store := (notified m params s.store).1 } (.logged (notificationFault method shown)))

theorem heard_hears (setup : Setup σ) (method : Text) (params : Json) (s : State σ) :
    Hears setup method params s (heard setup method params s) := by
  have hnotice {m : NotificationMethod} (hm : NotificationMethod.ofText? method = some m) (hne : m ≠ .exit) :
      Hears setup method params s (match (notified m params s.store).2 with
        | none => .still { s with store := (notified m params s.store).1 }
        | some f => note (notificationFault method) f { s with store := (notified m params s.store).1 }) := by
    cases hf : (notified m params s.store).2 with
    | none => exact .noticed hm hne hf
    | some f =>
      obtain ⟨shown, hs⟩ := Fault.isShown_iff.1 (notified_isShown hf)
      simp only [note, hs]
      exact .failed hm hne hf hs
  unfold heard
  cases hm : NotificationMethod.ofText? method with
  | none => exact .unknown hm
  | some m =>
    cases m with
    | exit => exact .exited hm
    | _ => exact hnotice hm (by simp)

theorem Hears.traceClosed {s : State σ} {a : Step σ} (h : Hears setup method params s a) :
    a.state.traceClosed = s.traceClosed := by
  cases h <;> rfl

theorem Hears.lifecycle {s : State σ} {a : Step σ} (h : Hears setup method params s a) :
    a.state.lifecycle = s.lifecycle := by
  cases h <;> rfl

theorem Hears.emitted {s : State σ} {a : Step σ} (h : Hears setup method params s a) :
    Server.emitted a.events = [] := by
  cases h <;> rfl

theorem heard_traceClosed (setup : Setup σ) (method : Text) (params : Json) (s : State σ) :
    (heard setup method params s).state.traceClosed = s.traceClosed :=
  (heard_hears setup method params s).traceClosed

theorem heard_lifecycle (setup : Setup σ) (method : Text) (params : Json) (s : State σ) :
    (heard setup method params s).state.lifecycle = s.lifecycle :=
  (heard_hears setup method params s).lifecycle

theorem emitted_heard (setup : Setup σ) (method : Text) (params : Json) (s : State σ) :
    emitted (heard setup method params s).events = [] :=
  (heard_hears setup method params s).emitted

theorem heard_of_exit (setup : Setup σ) (params : Json) (s : State σ) :
    heard setup (Text.ofString "exit") params s = exited setup s := by
  rw [heard, NotificationMethod.ofText?_eq_exit.2 rfl]

/-- Nothing but an exit stops the server where a notification is heard, and nothing else asks for the end. -/
theorem heard_of_not_exit (h : method ≠ Text.ofString "exit") (setup : Setup σ) (params : Json) (s : State σ) :
    (heard setup method params s).halt = none ∧ deeds (heard setup method params s).events = [] := by
  have hh := heard_hears setup method params s
  generalize heard setup method params s = a at hh
  cases hh with
  | exited known => exact absurd (NotificationMethod.ofText?_eq_exit.1 known) h
  | _ => exact ⟨rfl, rfl⟩

end Notifications

end Server

end LspEndpoint
