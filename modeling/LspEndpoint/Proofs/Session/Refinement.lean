import LspEndpoint.Backend.Plain
import LspEndpoint.File.Standard
import LspEndpoint.Proofs.Framing.Frame
import LspEndpoint.Proofs.Server.Delivery
import LspEndpoint.Session

/-!
A session over framed bodies is the server at work on the bodies. What it puts on the standard output are
the frames of what the server emits, nothing more; a body that is refused is answered and leaves no mark;
and the session ends with the first exit or with the input, unless something is raised. It starts if its trace can be
opened, and has a status if its trace can be closed.
-/
namespace LspEndpoint.Session

open Server Rpc

variable {σ : Type}

/-- A body as it stands in the input. -/
def framed (body : Text) : Bytes := Framing.frameOf (body.flatMap CodePoint.utf8)

/-- A body that arrives as it was sent, and that is answered with a parse error if it is refused. -/
structure Carried (limit : Int) (body : Text) : Prop where
  isScalar : body.isScalar
  countable : Framing.countable (body.flatMap CodePoint.utf8).length
  answered : ∀ e, readPayload limit body = .error e → e.isParseError

instance (limit : Int) (body : Text) : Decidable (Carried limit body) :=
  decidable_of_iff (body.isScalar ∧ Framing.countable (body.flatMap CodePoint.utf8).length ∧
      (match readPayload limit body with
        | .ok _ => true
        | .error e => e.isParseError) = true) <| by
    constructor
    · rintro ⟨hs, hc, ha⟩
      exact ⟨hs, hc, fun e he => by simpa only [he] using ha⟩
    · rintro ⟨hs, hc, ha⟩
      refine ⟨hs, hc, ?_⟩
      split
      · rfl
      · rename_i e he
        exact ha e he

/-- What a server does with a body: it handles the decoded value, or refuses the body with a parse error. -/
def exchange (setup : Setup σ) (limit : Int) (body : Text) (s : State σ) : Step σ :=
  match readPayload limit body with
  | .ok v => process setup v s
  | .error e => emit setup ⟨.null, .error ⟨-32700, e.message, .null⟩⟩ s

/-- The values of the bodies that are not refused. -/
def accepted (limit : Int) (bodies : List Text) : List Json :=
  bodies.filterMap fun body => (readPayload limit body).toOption

/-- How a session ends after a step of the server with no more input. -/
def endingOf (a : Step σ) : Ending :=
  match a.halt with
  | none => .inputEnded a.state.lifecycle.exitCode
  | some h => .ofHalt h

theorem answered_eq {setup : Setup σ} {limit : Int} {s : State σ} {body : Text}
    (h : Carried limit body) (rest : Bytes) :
    answered setup limit s body rest = .ofStep (exchange setup limit body s) rest := by
  cases hr : readPayload limit body with
  | ok v => simp only [answered, exchange, hr]
  | error e =>
    simp only [answered, exchange, hr, h.answered e hr, if_true]
    rfl

theorem turn_framed (setup : Setup σ) {limit : Int} {body : Text} (h : Carried limit body)
    (s : State σ) (rest : Bytes) :
    turn setup limit false s (Framing.read (framed body ++ rest)) =
      .ofStep (exchange setup limit body s) rest := by
  rw [framed, Framing.read_frameOf h.countable, Bytes.decode_utf8 h.isScalar]
  exact answered_eq h rest

/-- A session over framed bodies goes from body to body. -/
theorem serve_framed (setup : Setup σ) (limit : Int) {bodies : List Text}
    (h : ∀ body ∈ bodies, Carried limit body) (s : State σ) :
    serve setup limit false s (bodies.flatMap framed) =
      ⟨(Step.each (exchange setup limit) bodies s).events,
        (Step.each (exchange setup limit) bodies s).state,
        endingOf (Step.each (exchange setup limit) bodies s)⟩ := by
  induction bodies generalizing s with
  | nil =>
    rw [serve]
    rfl
  | cons body rest ih =>
    have hr := turn_framed setup (h body (List.mem_cons_self ..)) s (rest.flatMap framed)
    have ih := ih fun b hb => h b (List.mem_cons_of_mem _ hb)
    rw [List.flatMap_cons, serve, Step.each]
    simp only
    split
    · rename_i e he
      rw [hr] at he ⊢
      simp only [Turn.ofStep] at he ⊢
      split at he
      · cases he
      · rename_i halt hh
        cases he
        rw [Step.andThen_of_some hh]
        simp only [endingOf, hh]
    · rename_i left he
      rw [hr] at he ⊢
      simp only [Turn.ofStep] at he ⊢
      split at he
      · rename_i hh
        cases he
        rw [Step.andThen_of_none hh, ih]
        rfl
      · cases he

theorem exchange_unfailing {setup : Setup σ} {limit : Int} {body : Text} {s : State σ}
    (h : ∀ r ∈ emitted (exchange setup.unfailing limit body s).events, setup.deliver r = none) :
    exchange setup limit body s = exchange setup.unfailing limit body s := by
  cases hr : readPayload limit body with
  | ok v =>
    simp only [exchange, hr] at h ⊢
    exact process_unfailing h
  | error e =>
    simp only [exchange, hr] at h ⊢
    exact emit_unfailing h

/-- A body that is refused leaves no mark: the server goes on as if it had not come. -/
theorem exchanges_run {setup : Setup σ} (hd : ∀ r, setup.deliver r = none) (limit : Int)
    (bodies : List Text) (s : State σ) :
    (Step.each (exchange setup limit) bodies s).state = (run setup (accepted limit bodies) s).state ∧
      (Step.each (exchange setup limit) bodies s).halt = (run setup (accepted limit bodies) s).halt := by
  induction bodies generalizing s with
  | nil => exact ⟨rfl, rfl⟩
  | cons body rest ih =>
    rw [Step.each]
    cases hr : readPayload limit body with
    | ok v =>
      have ha : accepted limit (body :: rest) = v :: accepted limit rest := by
        simp [accepted, hr, Except.toOption]
      have he : exchange setup limit body s = process setup v s := by simp only [exchange, hr]
      rw [ha, he, run, Step.each]
      cases hh : (process setup v s).halt with
      | some halt =>
        rw [Step.andThen_of_some hh, Step.andThen_of_some hh]
        exact ⟨rfl, rfl⟩
      | none =>
        rw [Step.andThen_of_none hh, Step.andThen_of_none hh]
        exact ih _
    | error e =>
      have ha : accepted limit (body :: rest) = accepted limit rest := by
        simp [accepted, hr, Except.toOption]
      have he : exchange setup limit body s =
          .did s (.emitted ⟨.null, .error ⟨-32700, e.message, .null⟩⟩) := by
        simp only [exchange, hr, emit, hd]
      rw [ha, he, Step.andThen_of_none rfl]
      exact ih s

/-- The standard output holds the frames of the responses and nothing else. -/
theorem output_eq (events : List Event) :
    events.flatMap Event.output =
      ((emitted events).map fun r => (Framing.writeResponse r).toOption.getD []).flatten := by
  induction events with
  | nil => rfl
  | cons e rest ih =>
    rw [List.flatMap_cons, ih]
    cases e <;> rfl

theorem map_writeResponse {rs : List Response}
    (h : ∀ r ∈ rs, ∃ frame, Framing.writeResponse r = .ok frame) :
    rs.map Framing.writeResponse =
      (rs.map fun r => (Framing.writeResponse r).toOption.getD []).map .ok := by
  rw [List.map_map]
  refine List.map_congr_left fun r hr => ?_
  obtain ⟨frame, hf⟩ := h r hr
  simp [hf, Except.toOption]

/-- Where all that the server emits can be sent, a session is the server at work on the bodies. -/
theorem serve_unfailing (setup : Setup σ) {limit : Int} {bodies : List Text}
    (h : ∀ body ∈ bodies, Carried limit body) {s : State σ}
    (hd : ∀ r ∈ emitted (Step.each (exchange setup.unfailing limit) bodies s).events,
      setup.deliver r = none) :
    serve setup limit false s (bodies.flatMap framed) =
      ⟨(Step.each (exchange setup.unfailing limit) bodies s).events,
        (Step.each (exchange setup.unfailing limit) bodies s).state,
        endingOf (Step.each (exchange setup.unfailing limit) bodies s)⟩ := by
  have hcore : Step.each (exchange setup limit) bodies s =
      Step.each (exchange setup.unfailing limit) bodies s :=
    Step.each_congr hd fun _ _ => exchange_unfailing
  rw [serve_framed setup limit h, hcore]

/-- What a server does with bodies in turn if all that it has to say is sent. -/
def core (setup : Setup σ) (limit : Int) (bodies : List Text) (host : σ) : Step σ :=
  Step.each (exchange setup.unfailing limit) bodies (.start host)

/-- The messages of the bodies that are not refused. -/
def messages (limit : Int) (bodies : List Text) : List Json := (accepted limit bodies).flatMap flattened

theorem core_eq (setup : Setup σ) (limit : Int) (bodies : List Text) (host : σ) :
    (core setup limit bodies host).state =
        (Step.each (dispatched setup.unfailing) (messages limit bodies) (.start host)).state ∧
      (core setup limit bodies host).halt =
        (Step.each (dispatched setup.unfailing) (messages limit bodies) (.start host)).halt := by
  rw [messages, ← run_eq_each]
  exact exchanges_run (fun _ => rfl) limit bodies (.start host)

theorem core_accounts (setup : Setup σ) (limit : Int) (bodies : List Text) (host : σ) :
    ∃ responses, Accounts setup.unfailing (.start host) (messages limit bodies) responses
      (core setup limit bodies host).halt := by
  have hopen : IsOpen setup.unfailing (.start host) := .inr rfl
  exact ⟨_, (core_eq setup limit bodies host).2 ▸
    each_accounts setup.unfailing (fun _ => rfl) (messages limit bodies) hopen⟩

/-- The bodies end a session as their messages say, by the first exit or else with the input, unless something is
raised. -/
theorem endingOf_core {setup : Setup σ} (hl : ∀ host code, (setup.leave host code).1) (limit : Int) (bodies : List Text)
    (host : σ) (hn : ∀ r, (core setup limit bodies host).halt ≠ some (.raised r)) :
    endingOf (core setup limit bodies host) =
      if (messages limit bodies).any isExit then .exit (statusAfter (messages limit bodies))
      else .inputEnded (statusAfter (messages limit bodies)) := by
  obtain ⟨hs, hh⟩ := core_eq setup limit bodies host
  rw [hh] at hn
  obtain ⟨-, he⟩ := each_ends setup.unfailing (fun _ => rfl) hl (messages limit bodies) rfl hn
  have hcode := exitCode_each setup.unfailing (fun _ => rfl) hl (messages limit bodies) host hn
  rw [endingOf, hs, hh, he, hcode]
  cases (messages limit bodies).any isExit <;> rfl

/-- A session whose trace is not closed yet has a status exactly if its trace can be closed. -/
theorem status_eq_ok {setup : Setup σ} {r : Served σ} (hc : r.state.traceClosed = false) :
    r.status setup = .ok r.ending.code ↔
      ∀ t ∈ setup.tracing, t.close r.state.host r.state.linesTried = none := by
  simp only [Served.status, closingFault?, hc]
  cases setup.tracing with
  | none => simp
  | some t => cases hf : t.close r.state.host r.state.linesTried <;> simp [hf]

/-- A session that refines its server. Its output are the frames of what the server emits for the bodies in turn. It
leaves the server as the values of the bodies leave it, up to the first exit; and unless something is raised, it ends as
the messages say, and its status tells of a shutdown before that exactly if its trace can be closed. What is raised for a
message ends the session; and nothing is, if all answers can be shown and the trace has room for all messages. -/
structure Refines (setup : Setup σ) (limit : Int) (bodies : List Text) (host : σ) (served : Served σ) : Prop where
  output : ∃ frames : List Bytes,
    (emitted (core setup limit bodies host).events).map Framing.writeResponse = frames.map .ok ∧
      served.output = frames.flatten
  state : served.state = (run setup.unfailing (accepted limit bodies) (.start host)).state
  ending : (∀ r, (core setup limit bodies host).halt ≠ some (.raised r)) →
    served.ending = (if (messages limit bodies).any isExit then .exit (statusAfter (messages limit bodies))
      else .inputEnded (statusAfter (messages limit bodies)))
  status : (∀ r, (core setup limit bodies host).halt ≠ some (.raised r)) →
    (served.status setup = .ok (statusAfter (messages limit bodies)) ↔
      ∀ t ∈ setup.tracing, t.close served.state.host served.state.linesTried = none)
  raised : ∀ r, (core setup limit bodies host).halt = some (.raised r) →
    served.ending = .fault r.message ∧ ∃ m ∈ messages limit bodies, ∃ s, Raises setup.unfailing s m r
  unraised : setup.IsShown → (∀ m ∈ messages limit bodies, setup.fits m) →
    ∀ r, (core setup limit bodies host).halt ≠ some (.raised r)

theorem refines_of_writable {setup : Setup σ} (hdeliver : setup.deliver = deliverFramed)
    (hl : ∀ host code, (setup.leave host code).1) {limit : Int} {bodies : List Text}
    (h : ∀ body ∈ bodies, Carried limit body) {host : σ}
    (hw : ∀ r ∈ emitted (core setup limit bodies host).events, ∃ frame, Framing.writeResponse r = .ok frame) :
    Refines setup limit bodies host (serve setup limit false (.start host) (bodies.flatMap framed)) := by
  have hd : ∀ r ∈ emitted (core setup limit bodies host).events, setup.deliver r = none := by
    intro r hr
    obtain ⟨frame, hf⟩ := hw r hr
    simp only [hdeliver, deliverFramed, hf]
  obtain ⟨hs, hh⟩ := core_eq setup limit bodies host
  obtain ⟨responses, haccounts⟩ := core_accounts setup limit bodies host
  have hending := endingOf_core hl limit bodies host
  rw [serve_unfailing setup h hd]
  constructor
  case output => exact ⟨_, map_writeResponse hw, output_eq (core setup limit bodies host).events⟩
  case state => exact (exchanges_run (fun _ => rfl) limit bodies (.start host)).1
  case ending => exact hending
  case status =>
    intro hn
    have hclosed : (core setup limit bodies host).state.traceClosed = false := by
      rw [hs, each_traceClosed]
      rfl
    have hcode : (endingOf (core setup limit bodies host)).code = statusAfter (messages limit bodies) := by
      rw [hending hn]
      split <;> rfl
    rw [← hcode]
    exact status_eq_ok hclosed
  case raised =>
    intro r hr
    refine ⟨?_, ?_⟩
    · rw [core] at hr
      simp only [endingOf, hr, Ending.ofHalt]
    · rcases haccounts.stops with hstop | ⟨code, hstop⟩ | ⟨m, hm, s, x, hraises, hstop⟩
      · cases hr.symm.trans hstop
      · cases hr.symm.trans hstop
      · cases hr.symm.trans hstop
        exact ⟨m, hm, s, hraises⟩
  case unraised => exact fun hshown hfits => haccounts.not_raised hshown.unfailing hfits

/-- A program that is told to serve does not start if its trace cannot be opened. Otherwise it starts, and what it makes of
framed bodies refines its server, if all that it has to say can be written. -/
theorem serve_refines (e : Environment) (files : File.System) {arguments : List Text} {path? : Option Text} {c : Config}
    (hserve : CommandLine.read arguments = .ok (.serve path?)) (hc : settings e files path? = .ok c) (platform : Text)
    (ask : σ → Store → Query → Answer × Store × σ) (launch : σ → List Text → Answer × σ)
    (tracing : File.Place → Tracing σ) (clock : Nat → Binary64) (account : σ → Fault → Text) (world : File.System → σ)
    (bodies : List Text) (h : ∀ body ∈ bodies, Carried c.maxMessageSize body) :
    (∀ failure, openTrace c files = .error failure →
      start e files arguments = .faulty (startedLine :: path?.toList.map configLine) (.unopened failure)) ∧
    ∀ opened place?, openTrace c files = .ok (opened, place?) →
      start e files arguments = .serving (startedLine :: path?.toList.map configLine) c opened place? ∧
      let setup := Setup.ofConfig c platform ask launch (place?.map tracing) clock account
      (∀ r ∈ emitted (core setup c.maxMessageSize bodies (world opened)).events,
          ∃ frame, Framing.writeResponse r = .ok frame) →
        Refines setup c.maxMessageSize bodies (world opened)
          (serve setup c.maxMessageSize false (.start (world opened)) (bodies.flatMap framed)) := by
  refine ⟨fun failure ho => ?_, fun opened place? ho => ⟨?_, fun hw => ?_⟩⟩
  · simp only [start, hserve, hc, ho]
  · simp only [start, hserve, hc, ho]
  · exact refines_of_writable rfl (fun _ _ => rfl) h hw

section Sessions

def shutdownBody : Text := "\x7b\"id\": 1, \"method\": \"shutdown\"\x7d"

/-- A shutdown, what is no document, and an exit in a batch with one more request. -/
def shortSession : List Text :=
  [shutdownBody, "x", "[\x7b\"method\": \"exit\"\x7d, \x7b\"id\": 2, \"method\": \"shutdown\"\x7d]"]

/-- What that session answers. -/
def shortFrames : List Bytes :=
  [Framing.frameOf (Framing.asciiBytes "\x7b\"jsonrpc\": \"2.0\", \"id\": 1, \"result\": null\x7d"),
    Framing.frameOf (Framing.asciiBytes ("\x7b\"jsonrpc\": \"2.0\", \"id\": null, \"error\": " ++
      "\x7b\"code\": -32700, \"message\": " ++
      "\"Parse error: Expecting value: line 1 column 1 (char 0)\"\x7d\x7d"))]

def plainSetup : Setup Unit :=
  .ofConfig .default "linux" (Backend.reading Backend.empty) (fun _ _ => (.result .null, ())) none
    (fun _ => Binary64.ofInt 0) fun _ _ => []

/-- A trace whose lines are all lost. -/
def unwrittenTrace : Tracing Unit where
  limit := 200
  depth := stackRoom
  time _ := ⟨⟨1970, 1, 1⟩, 0, 0, 0, 0, none⟩
  write host _ := (some .noSpace, host)
  close _ _ := none

theorem isShown_plainSetup : plainSetup.IsShown := ⟨⟨fun _ _ _ => rfl, fun _ _ => rfl⟩, nofun⟩

theorem serve_refines_shortSession :
    start ⟨[], "/root"⟩ File.standardSystem [] = .serving [startedLine] .default File.standardSystem none ∧
      plainSetup.IsShown ∧
      (∀ m ∈ messages Config.default.maxMessageSize shortSession, plainSetup.fits m) ∧
      (serve plainSetup Config.default.maxMessageSize false (.start ())
        (shortSession.flatMap framed)).output = shortFrames.flatten ∧
      (serve plainSetup Config.default.maxMessageSize false (.start ())
        (shortSession.flatMap framed)).status plainSetup = .ok 0 := by
  have hc : ∀ body ∈ shortSession, Carried Config.default.maxMessageSize body := by decide +kernel
  have hw : (emitted (core plainSetup Config.default.maxMessageSize shortSession ()).events).map
      (fun r => (Framing.writeResponse r).toOption) = shortFrames.map some := by
    decide +kernel
  have hfits : ∀ m ∈ messages Config.default.maxMessageSize shortSession, plainSetup.fits m := by decide +kernel
  have hserve : CommandLine.read [] = .ok (.serve none) := rfl
  obtain ⟨hstart, hrefines⟩ := (serve_refines ⟨[], "/root"⟩ File.standardSystem hserve rfl "linux"
    (Backend.reading Backend.empty) (fun _ _ => (.result .null, ())) (fun _ => unwrittenTrace) (fun _ => Binary64.ofInt 0)
    (fun _ _ => []) (fun _ => ()) shortSession hc).2 File.standardSystem none rfl
  have hr : Refines plainSetup Config.default.maxMessageSize shortSession () _ := hrefines <| by
    intro r hr
    have hm := List.mem_map_of_mem (f := fun r => (Framing.writeResponse r).toOption) hr
    obtain ⟨frame, -, he⟩ := List.mem_map.1 (hw ▸ hm)
    cases hx : Framing.writeResponse r with
    | ok frame => exact ⟨frame, rfl⟩
    | error e =>
      rw [hx] at he
      cases he
  obtain ⟨frames, hf, ho⟩ := hr.output
  have hframes : frames = shortFrames := by
    have hm := congrArg (List.map Except.toOption) hf
    rw [List.map_map, List.map_map] at hm
    exact (List.map_inj_right fun _ _ h => Option.some.inj h).1 (hm.symm.trans hw)
  have hs := hr.status (hr.unraised isShown_plainSetup hfits)
  have hcode : statusAfter (messages Config.default.maxMessageSize shortSession) = 0 := by decide +kernel
  rw [hcode] at hs
  exact ⟨hstart, isShown_plainSetup, hfits, hframes ▸ ho, hs.2 fun _ ht => by cases ht⟩

/-- Settings that ask for a trace in a file that takes nothing. -/
def fullTrace : Config := { Config.default with traceFile := "/dev/full" }

def fullSetup : Setup File.System :=
  .ofConfig fullTrace "linux" (Backend.reading Backend.empty) (fun files _ => (.result .null, files))
    (some (tracingOf fullTrace (fun _ => ⟨⟨2024, 1, 2⟩, 3, 4, 5, 678901, none⟩)
      (File.placeOf "dev/full")))
    (fun _ => Binary64.ofInt 0) fun _ _ => []

/-- A session is shut down and ends with its input, but has no status: its trace cannot be closed. -/
theorem status_fullSetup :
    (openTrace fullTrace File.standardSystem).toOption.bind (·.2) = some (File.placeOf "dev/full") ∧
      Carried fullTrace.maxMessageSize shutdownBody ∧
      statusAfter (messages fullTrace.maxMessageSize [shutdownBody]) = 0 ∧
      (serve fullSetup fullTrace.maxMessageSize false (.start File.standardSystem)
          ([shutdownBody].flatMap framed)).output = shortFrames.headD [] ∧
      (serve fullSetup fullTrace.maxMessageSize false (.start File.standardSystem)
          ([shutdownBody].flatMap framed)).status fullSetup = .error (.refused .noSpace none) := by
  have hc : Carried fullTrace.maxMessageSize shutdownBody := by decide +kernel
  rw [serve_framed fullSetup fullTrace.maxMessageSize (List.forall_mem_singleton.2 hc)]
  refine ⟨by decide +kernel, hc, by decide +kernel, by decide +kernel, ?_⟩
  have hf : closingFault? fullSetup (Step.each (exchange fullSetup fullTrace.maxMessageSize)
      [shutdownBody] (.start File.standardSystem)).state = some (.refused .noSpace none) := by
    decide +kernel
  simp only [Served.status, hf]

end Sessions

end LspEndpoint.Session
