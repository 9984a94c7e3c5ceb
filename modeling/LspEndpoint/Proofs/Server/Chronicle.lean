import LspEndpoint.File.Standard
import LspEndpoint.Proofs.Json.Reading
import LspEndpoint.Proofs.Server.Frame
import LspEndpoint.Proofs.Trace.Line
import LspEndpoint.Server.Start

/-!
The chronicle of a run. Where every line of the trace is written, the trace grows by one line for each notification and
by two for each request, before and after its handler, and by nothing else; the lines are read as what the messages and
their answers were. A request in whose place something is raised has no second line, and a message that the trace has no
room for has none at all.
-/
namespace LspEndpoint

/-- A text that grows by lines of printable ASCII, which are read as these values. -/
def Trace.Appends (before after : Option Text) (records : List Json) : Prop :=
  ∃ (text : Text) (lines : List Text), before = some text ∧
    after = some (text ++ lines.flatMap (· ++ Text.ofString "\n")) ∧
    (∀ line ∈ lines, line.isPrintableAscii) ∧ lines.map Json.read = records.map Except.ok

namespace Trace.Appends

theorem refl {before : Option Text} (h : before.isSome) : Appends before before [] := by
  obtain ⟨text, rfl⟩ := Option.isSome_iff_exists.1 h
  exact ⟨text, [], rfl, by rw [List.flatMap_nil, List.append_nil], fun _ h => absurd h List.not_mem_nil, rfl⟩

theorem isSome_after {before after : Option Text} {records : List Json} (h : Appends before after records) :
    after.isSome := by
  obtain ⟨_, _, -, rfl, -, -⟩ := h
  rfl

theorem trans {a b c : Option Text} {first second : List Json} (h : Appends a b first) (h' : Appends b c second) :
    Appends a c (first ++ second) := by
  obtain ⟨text, lines, ha, rfl, hl, hr⟩ := h
  obtain ⟨_, lines', hb, rfl, hl', hr'⟩ := h'
  cases hb
  refine ⟨text, lines ++ lines', ha, ?_, fun line hm => (List.mem_append.1 hm).elim (hl line) (hl' line), ?_⟩
  · rw [List.flatMap_append, List.append_assoc]
  · rw [List.map_append, List.map_append, hr, hr']

/-- A text grows by the line of an event. -/
theorem line {e : Event} (h : e.IsRecordable) (limit : Int) (time : Moment) (text : Text) :
    ∃ y, Appends (some text) (some (text ++ e.line limit time)) [(e.lasting y).toJson limit time] := by
  obtain ⟨y, hy⟩ := e.survives limit time h
  refine ⟨y, text, [(e.toJson limit time).render true], rfl, ?_, fun line hl => ?_, ?_⟩
  · rw [Event.line, List.flatMap_cons, List.flatMap_nil, List.append_nil]
  · rw [List.mem_singleton.1 hl]
    exact Json.isPrintableAscii_render _
  · rw [List.map_cons, hy.read]
    rfl

end Trace.Appends

theorem Rpc.Response.isUnsplit_status? {r : Response} {status : Text} (h : r.status? = some status) :
    status.isUnsplit := by
  refine Text.isUnsplit_of_isPrintableAscii ?_
  obtain ⟨hfailure, hsuccess⟩ := eq_of_status? h
  cases hc : r.code? with
  | some code =>
    rw [hfailure code hc]
    exact Json.isPrintableAscii_ofInt _
  | none =>
    rw [hsuccess hc]
    decide

namespace Rpc

/-- The id and the params of a message have no doubles in them. -/
def hasDouble (v : Json) : Bool := ((id? v).map Json.hasDouble).getD false || (paramsOf v).hasDouble

/-- A message that can be recorded: its method, its id and its params are read back as they are. -/
structure IsRecordable (v : Json) : Prop where
  method : ∀ method, method? v = some method → method.isUnsplit
  id : ∀ id, id? v = some id → id.IsDecoded false
  params : (paramsOf v).IsDecoded false

theorem isDecoded_paramsOf {v : Json} {doubles : Bool} (h : v.IsDecoded doubles) :
    (paramsOf v).IsDecoded doubles := by
  have hg : (v.get "params").IsDecoded doubles := by
    unfold Json.get
    cases hp : v.get? "params" with
    | none => exact .null
    | some params => exact h.get? hp
  unfold paramsOf
  split
  · exact .object List.nodup_nil (fun _ h => absurd h List.not_mem_nil) fun _ h => absurd h List.not_mem_nil
  · exact hg

theorem isRecordable_of_isDecoded {v : Json} {doubles : Bool} (h : v.IsDecoded doubles) (hf : hasDouble v = false) :
    IsRecordable v := by
  simp only [hasDouble, Bool.or_eq_false_iff] at hf
  constructor
  case method =>
    intro method hm
    unfold method? at hm
    split at hm
    · rename_i t ht
      cases hm
      cases h.get? ht with
      | text unsplit => exact unsplit
    · cases hm
  case id =>
    intro id hi
    refine Json.IsDecoded.without_doubles (h.get? (Option.filter_eq_some_iff.1 hi).1) ?_
    simpa only [hi, Option.map_some, Option.getD_some] using hf.1
  case params =>
    refine Json.IsDecoded.without_doubles (isDecoded_paramsOf h) hf.2

/-- The messages of a value come from the same text as the value. -/
theorem isDecoded_of_mem_flattened {v m : Json} {doubles : Bool} (h : v.IsDecoded doubles) (hm : m ∈ flattened v) :
    m.IsDecoded doubles := by
  unfold flattened at hm
  split at hm
  · split at hm
    · cases h with
      | array decoded => exact decoded m hm
    · rwa [List.mem_singleton.1 hm]
  · rwa [List.mem_singleton.1 hm]

end Rpc

namespace Server

open Rpc Trace

variable {σ : Type}

/-- Surroundings that keep a trace in a text where there is one: each line of ASCII is taken and stands at its end, and
nobody else writes there. -/
structure Setup.KeepsTrace (setup : Setup σ) (t : Tracing σ) (file : σ → Option Text) : Prop where
  tracing : setup.tracing = some t
  write : ∀ host text, file host = some text → ∀ line : Text, line.isPrintableAscii →
    (t.write host (line ++ Text.ofString "\n")).1 = none ∧
      file (t.write host (line ++ Text.ofString "\n")).2 = some (text ++ (line ++ Text.ofString "\n"))
  ask : ∀ host, (file host).isSome → ∀ store q, file (setup.ask host store q).2.2 = file host
  launch : ∀ host, (file host).isSome → ∀ argv, file (setup.launch host argv).2 = file host
  leave : ∀ host, (file host).isSome → ∀ code, file (setup.leave host code).2 = file host

/-- The record of a request, and that of a response. -/
def requestRecord (limit : Int) (time : Text) (id : Json) (method : Text) (params : Json) : Json :=
  .record [("type", Json.string "request"), ("timestamp", .text time), ("request_id", id),
    ("method", .text method), ("params", params.elided limit)]

def responseRecord (time : Text) (id : Json) (status : Text) (duration : Binary64) : Json :=
  .record [("type", Json.string "response"), ("timestamp", .text time), ("request_id", id),
    ("result_status", .text status), ("execution_time_ms", .float duration)]

/-- What a message is owed, and what the trace says about it. Times and durations are left open. -/
inductive Told (limit : Int) (v : Json) : Option Response → List Json → Prop
  | request {id : Json} {method : Text} {reply : Reply} {status time after : Text} {duration : Binary64}
      (hm : method? v = some method) (hi : id? v = some id)
      (failure : ∀ code, Response.code? ⟨id, reply⟩ = some code → status = Text.ofInt code)
      (success : Response.code? ⟨id, reply⟩ = none → status = Text.ofString "success") :
      Told limit v (some ⟨id, reply⟩)
        [requestRecord limit time id method (paramsOf v), responseRecord after id status duration]
  | notification {method time : Text} (hm : method? v = some method) (hi : id? v = none) :
      Told limit v none
        [.record [("type", Json.string "notification"), ("timestamp", .text time), ("method", .text method),
          ("params", (paramsOf v).elided limit)]]
  | invalid (hm : method? v = none) : Told limit v (some (.invalid ((id? v).getD .null))) []

/-- The responses and the records of messages in turn, up to an exit that ends the run, a response that cannot be sent,
or something that is raised. -/
inductive Chronicle (setup : Setup σ) (limit : Int) :
    State σ → List Json → List Response → List Json → Option Halt → Prop
  | done {s : State σ} : Chronicle setup limit s [] [] [] none
  | next {s : State σ} {v : Json} {rest : List Json} {r : Option Response} {responses : List Response}
      {records later : List Json} {halt : Option Halt} (told : Told limit v r records)
      (sent : ∀ x ∈ r, setup.deliver x = none)
      (stays : isExit v → (setup.leave (exitHost setup v s) s.lifecycle.exitCode).1 = false)
      (onwards : Chronicle setup limit (dispatched setup v s).state rest responses later halt) :
      Chronicle setup limit s (v :: rest) (r.toList ++ responses) (records ++ later) halt
  | exit {s : State σ} {v : Json} {rest records : List Json} (told : Told limit v none records) (exits : isExit v)
      (leaves : (setup.leave (exitHost setup v s) s.lifecycle.exitCode).1) :
      Chronicle setup limit s (v :: rest) [] records (some (.exited s.lifecycle.exitCode))
  | undelivered {s : State σ} {v : Json} {rest records : List Json} {r : Response} {e : Framing.WriteError}
      (told : Told limit v (some r) records) (unsent : setup.deliver r = some e) :
      Chronicle setup limit s (v :: rest) [] records (some (.undelivered e))
  | misfit {s : State σ} {v : Json} {rest : List Json} (hasNoRoom : setup.fits v = false) :
      Chronicle setup limit s (v :: rest) [] [] (some (.raised .tooDeep))
  | unanswered {s : State σ} {v id : Json} {rest : List Json} {method time : Text} {r : Raised}
      (hm : method? v = some method) (hi : id? v = some id) (raises : Raises setup s v r) :
      Chronicle setup limit s (v :: rest) [] [requestRecord limit time id method (paramsOf v)] (some (.raised r))

/-- Nothing is raised where every message fits and every answer can be shown. -/
theorem Chronicle.not_raised {setup : Setup σ} (hs : setup.IsShown) {limit : Int} {s : State σ} {ms : List Json}
    {responses : List Response} {records : List Json} {halt : Option Halt}
    (h : Chronicle setup limit s ms responses records halt) (hf : ∀ v ∈ ms, setup.fits v) (r : Raised) :
    halt ≠ some (.raised r) := by
  induction h with
  | done | exit | undelivered => exact nofun
  | next _ _ _ _ ih => exact ih fun v hv => hf v (List.mem_cons_of_mem _ hv)
  | misfit hasNoRoom =>
    rw [hf _ (List.mem_cons_self ..)] at hasNoRoom
    cases hasNoRoom
  | unanswered _ _ raises =>
    have hv := hf _ (List.mem_cons_self ..)
    rw [raises.misfit hs] at hv
    cases hv

/-- What a message leaves in the trace, and how its handling ends. -/
inductive Enters (setup : Setup σ) (limit : Int) (s : State σ) (v : Json) (a : Step σ) : List Json → Prop
  | answered {r : Response} {records : List Json} (told : Told limit v (some r) records) (isOther : isExit v = false)
      (sends : a.Sends setup r) : Enters setup limit s v a records
  | heard {records : List Json} (told : Told limit v none records) (silent : emitted a.events = [])
      (ends : a.halt = if isExit v ∧ (setup.leave (exitHost setup v s) s.lifecycle.exitCode).1 then
        some (.exited s.lifecycle.exitCode) else none) : Enters setup limit s v a records
  | misfit (hasNoRoom : setup.fits v = false) (stops : a.Raises .tooDeep) : Enters setup limit s v a []
  | unanswered {id : Json} {method time : Text} {r : Raised} (hm : method? v = some method) (hi : id? v = some id)
      (raises : Raises setup s v r) (stops : a.Raises r) :
      Enters setup limit s v a [requestRecord limit time id method (paramsOf v)]

/-- A notification whose records are in the trace before its handler runs, which finds all else as it was. -/
def Announces (setup : Setup σ) (file : σ → Option Text) (v : Json) (method : Text) (s : State σ)
    (records : List Json) : Prop :=
  ∃ u e, dispatched setup v s = (⟨u, [e], none⟩ : Step σ).andThen (heard setup method (paramsOf v)) ∧
    u.lifecycle = s.lifecycle ∧ u.store = s.store ∧ Appends (file s.host) (file u.host) records

section Steps

variable {setup : Setup σ}

variable {t : Tracing σ} {file : σ → Option Text} (h : setup.KeepsTrace t file) {s : State σ}
  (hs : (file s.host).isSome)

include h hs

theorem write_line (e : Trace.Event) :
    (t.write s.host (e.line t.limit (t.time s.linesTried))).1 = none ∧
      ∃ text, file s.host = some text ∧ file (t.write s.host (e.line t.limit (t.time s.linesTried))).2 =
        some (text ++ e.line t.limit (t.time s.linesTried)) := by
  obtain ⟨text, ht⟩ := Option.isSome_iff_exists.1 hs
  obtain ⟨hw, hf⟩ := h.write s.host text ht _
    (Json.isPrintableAscii_render (e.toJson t.limit (t.time s.linesTried)))
  exact ⟨hw, text, ht, hf⟩

/-- An event that the trace has room for is traced by its line, which is added before anything else happens. -/
theorem traced_line (ho : s.traceClosed = false) {e : Trace.Event} (hroom : setup.hasRoom e.depth) :
    ∃ host text, file s.host = some text ∧ file host = some (text ++ e.line t.limit (t.time s.linesTried)) ∧
      traced setup e s =
        ⟨{ s with host, linesTried := s.linesTried + 1 }, [.traced (t.time s.linesTried) e], none⟩ := by
  obtain ⟨hw, text, ht, hf⟩ := write_line h hs e
  refine ⟨_, text, ht, hf, ?_⟩
  have htraced := traced_traces setup e s
  generalize traced setup e s = a at htraced
  cases htraced with
  | untraced absent => cases h.tracing.symm.trans absent
  | tooDeep deep =>
    rw [hroom] at deep
    cases deep
  | closed present isClosed => cases ho.symm.trans isClosed
  | written present =>
    cases h.tracing.symm.trans present
    rfl
  | failed present isOpen untaken =>
    cases h.tracing.symm.trans present
    cases hw.symm.trans untaken

theorem traced_appends (ho : s.traceClosed = false) {e : Trace.Event} (hroom : setup.hasRoom e.depth)
    (he : e.IsRecordable) :
    ∃ host y, traced setup e s =
        ⟨{ s with host, linesTried := s.linesTried + 1 }, [.traced (t.time s.linesTried) e], none⟩ ∧
      Appends (file s.host) (file host) [(e.lasting y).toJson t.limit (t.time s.linesTried)] := by
  obtain ⟨host, text, hbefore, hafter, ht⟩ := traced_line h hs ho hroom
  obtain ⟨y, hy⟩ := Appends.line he t.limit (t.time s.linesTried) text
  exact ⟨host, y, ht, by rwa [hbefore, hafter]⟩

theorem tracedEnd_appends (ho : s.traceClosed = false) (start : Binary64) {r : Response} {status : Text}
    (hstatus : r.status? = some status) (hi : r.id.IsDecoded false) :
    ∃ time y,
      Appends (file s.host) (file (tracedEnd setup start r s).state.host) [responseRecord time r.id status y] := by
  obtain ⟨host, y, ht, ha⟩ := traced_appends h (s := tick s) hs ho
    (e := .response r.id status (.float (duration start (setup.clock s.clockReads))))
    (Setup.hasRoom_iff.2 fun _ _ => Nat.zero_le _) ⟨hi, Response.isUnsplit_status? hstatus, _, rfl⟩
  refine ⟨(t.time s.linesTried).stamp, y, ?_⟩
  rw [tracedEnd_of_named (by rw [h.tracing]; rfl) hstatus, ht]
  exact ha

theorem replied_file (method : Text) (params : Json) :
    file (replied setup method params s).1.state.host = file s.host := by
  rcases replied_cases setup method params s with he | ⟨m, x, -, -, hh, hc⟩
  · rw [he]
    rfl
  · rw [hc.state, hh.host (h.ask s.host hs) (h.launch s.host hs)]

theorem heard_file (method : Text) (params : Json) :
    file (heard setup method params s).state.host = file s.host := by
  have hh := heard_hears setup method params s
  generalize heard setup method params s = a at hh
  cases hh with
  | exited known => exact h.leave _ hs _
  | _ => rfl

theorem traced_isSome (e : Trace.Event) : (file (traced setup e s).state.host).isSome := by
  obtain ⟨-, text, -, hf⟩ := write_line h hs e
  have htraced := traced_traces setup e s
  generalize traced setup e s = a at htraced
  cases htraced with
  | written present | failed present =>
    cases h.tracing.symm.trans present
    exact Option.isSome_of_eq_some hf
  | _ => exact hs

theorem tracedEnd_isSome (start : Binary64) (r : Response) :
    (file (tracedEnd setup start r s).state.host).isSome := by
  rcases tracedEnd_cases setup start r s with ⟨-, he⟩ | ⟨-, he⟩ | ⟨status, -, -, he⟩
  · exact he ▸ hs
  · exact he ▸ hs
  · exact he ▸ traced_isSome h (s := tick s) hs _

/-- Whatever comes in, the trace stays where it is. -/
theorem dispatched_isSome (v : Json) : (file (dispatched setup v s).state.host).isSome := by
  refine dispatched_keeps (P := fun u => (file u.host).isSome) (fun e u hu => traced_isSome h hu e) ?_
    (fun start r u hu => tracedEnd_isSome h hu start r) ?_ v hs
  · intro method params u hu
    rw [replied_file h (s := tick u) hu]
    exact hu
  · intro method params u hu
    rw [heard_file h hu]
    exact hu

theorem stateAfter_isSome (ms : List Json) : (file (stateAfter setup ms s).host).isSome := by
  induction ms generalizing s with
  | nil => exact hs
  | cons v rest ih => exact ih (dispatched_isSome h hs v)

/-- A request leaves two records, before and after its handler, and the reply that the second tells of is sent, unless
something is raised before the second. -/
theorem request_enters (ho : s.traceClosed = false) {v id : Json} {method : Text} (hf : setup.fits v)
    (hm : method? v = some method) (hi : id? v = some id) (hv : Rpc.IsRecordable v) :
    ∃ records, Appends (file s.host) (file (request setup id method (paramsOf v) s).state.host) records ∧
      Enters setup t.limit s v (request setup id method (paramsOf v) s) records := by
  have hroom := Setup.hasRoom_of_fits hf hm
  have hattended := request_attended setup id method (.inr ho) hroom
  obtain ⟨host, y, hte, hta⟩ := traced_appends h hs ho (e := .request id method (paramsOf v)) hroom
    ⟨hv.id id hi, hv.method method hm, hv.params⟩
  have hbegun : (begun setup id method (paramsOf v) s).host = host := by
    rw [begun, hte]
    rfl
  have hfile :
      file (replied setup method (paramsOf v) (begun setup id method (paramsOf v) s)).1.state.host = file host := by
    rw [replied_file h (hbegun ▸ hta.isSome_after), hbegun]
  have hclosed := (replied_traceClosed setup method (paramsOf v) (begun setup id method (paramsOf v) s)).trans
    ((begun_agrees setup id method (paramsOf v) s).traceClosed.trans ho)
  have hunanswered (r : Raised) (hraises : Raises setup s v r)
      (hstops : (request setup id method (paramsOf v) s).Raises r) :
      Enters setup t.limit s v (request setup id method (paramsOf v) s)
        [requestRecord t.limit (t.time s.linesTried).stamp id method (paramsOf v)] :=
    .unanswered hm hi hraises hstops
  rcases replied_halt setup method (paramsOf v) (begun setup id method (paramsOf v) s) with hh | ⟨r, hh⟩
  · obtain ⟨c, hc, heq⟩ := request_of_replied id method (.inr ho) hroom hh
    cases hn : setup.canName (responseTo setup id method (paramsOf v) s) with
    | true =>
      obtain ⟨status, hstatus⟩ : ∃ status, (responseTo setup id method (paramsOf v) s).status? = some status := by
        simpa [Setup.canName, h.tracing, Option.isSome_iff_exists] using hn
      obtain ⟨time, x, hea⟩ := tracedEnd_appends h (hfile ▸ hta.isSome_after) hclosed
        (setup.clock (traced setup (.request id method (paramsOf v)) s).state.clockReads) hstatus (hv.id id hi)
      obtain ⟨hfailure, hsuccess⟩ := Response.eq_of_status? hstatus
      have htold : Told t.limit v (some (responseTo setup id method (paramsOf v) s))
          [requestRecord t.limit (t.time s.linesTried).stamp id method (paramsOf v), responseRecord time id status x] :=
        .request hm hi hfailure hsuccess
      refine ⟨_, ?_, .answered htold (by simp [isExit, hi]) (hattended.sends hh hn)⟩
      rw [heq, hc, concluded_state]
      exact hta.trans (hfile ▸ hea)
    | false =>
      refine ⟨_, ?_, hunanswered _ (raises_of_unnamed hf hm hi hn) (hattended.unnamed hh hn)⟩
      rw [heq, hc, concluded_of_unnamed hn]
      exact hfile.symm ▸ hta
  · refine ⟨_, ?_, hunanswered r (raises_of_halt hf hm hi hh) (hattended.raises r hh)⟩
    rw [request_of_raised id method (.inr ho) hroom hh]
    exact hfile.symm ▸ hta

/-- A notification is recorded before its handler runs, and its handler leaves the trace as it is. -/
theorem notification_told (ho : s.traceClosed = false) {v : Json} {method : Text} (hf : setup.fits v)
    (hm : method? v = some method) (hi : id? v = none) (hv : Rpc.IsRecordable v) :
    ∃ records, Told t.limit v none records ∧ Announces setup file v method s records ∧
      Appends (file s.host) (file (dispatched setup v s).state.host) records := by
  obtain ⟨host, y, hte, hta⟩ := traced_appends h hs ho (e := .notification method (paramsOf v))
    (Setup.hasRoom_of_fits hf hm) ⟨hv.method method hm, hv.params⟩
  have htold : Told t.limit v none [(Event.notification method (paramsOf v)).toJson t.limit (t.time s.linesTried)] :=
    .notification hm hi
  have heq : dispatched setup v s = (⟨{ s with host, linesTried := s.linesTried + 1 },
      [.traced (t.time s.linesTried) (.notification method (paramsOf v))], none⟩ : Step σ).andThen
        (heard setup method (paramsOf v)) := by
    rw [dispatched_of_notification hm hi, notification_eq, hte]
  refine ⟨_, htold, ⟨_, _, heq, rfl, rfl, hta⟩, ?_⟩
  rw [heq, Step.andThen_of_none rfl, heard_file h hta.isSome_after]
  exact hta

/-- Whatever comes in leaves in the trace what its handling deserves. -/
theorem dispatched_enters (ho : s.traceClosed = false) {v : Json} (hv : Rpc.IsRecordable v) :
    ∃ records, Appends (file s.host) (file (dispatched setup v s).state.host) records ∧
      Enters setup t.limit s v (dispatched setup v s) records := by
  cases hf : setup.fits v with
  | false =>
    rw [dispatched_of_misfit hf]
    exact ⟨[], .refl hs, .misfit hf (Step.raising_raises s _)⟩
  | true =>
    cases hm : method? v with
    | none =>
      rw [dispatched_of_invalid hm]
      refine ⟨[], ?_, .answered (.invalid hm) (by simp [isExit, hm]) (emit_sends setup _ s)⟩
      rw [emit_state]
      exact .refl hs
    | some method =>
      cases hi : id? v with
      | some id =>
        rw [dispatched_of_request hm hi]
        exact request_enters h hs ho hf hm hi hv
      | none =>
        obtain ⟨records, htold, -, happends⟩ := notification_told h hs ho hf hm hi hv
        refine ⟨records, happends, ?_⟩
        cases notification_ends (.inr ho) hf hm hi with
        | raised raises => cases hi.symm.trans (raises.id?_of_fits hf).choose_spec
        | answered responds => cases responds <;> simp_all
        | unanswered owes isOther silent goesOn => exact .heard htold silent (by rw [goesOn, isOther]; simp)
        | exit owes exits silent ends => exact .heard htold silent (by rw [ends, exits]; simp)

theorem each_chronicle (vs : List Json) (hv : ∀ v ∈ vs, Rpc.IsRecordable v) (ho : s.traceClosed = false) :
    ∃ records, Appends (file s.host) (file (Step.each (dispatched setup) vs s).state.host) records ∧
      Chronicle setup t.limit s vs (emitted (Step.each (dispatched setup) vs s).events) records
        (Step.each (dispatched setup) vs s).halt := by
  induction vs generalizing s with
  | nil => exact ⟨[], .refl hs, .done⟩
  | cons v rest ih =>
    obtain ⟨records, happends, henters⟩ := dispatched_enters h hs ho (hv v (List.mem_cons_self ..))
    have hc : (dispatched setup v s).state.traceClosed = false := (dispatched_traceClosed setup v s).trans ho
    obtain ⟨later, hlater, hchronicle⟩ := ih happends.isSome_after (fun w hw => hv w (List.mem_cons_of_mem _ hw)) hc
    rw [Step.each]
    cases henters with
    | misfit hasNoRoom stops =>
      rw [Step.andThen_of_some stops.halt, stops.emitted, stops.halt]
      exact ⟨[], happends, .misfit hasNoRoom⟩
    | unanswered hm hi raises stops =>
      rw [Step.andThen_of_some stops.halt, stops.emitted, stops.halt]
      exact ⟨_, happends, .unanswered hm hi raises⟩
    | @answered r records told isOther sends =>
      unfold Step.Sends at sends
      cases hd : setup.deliver r with
      | none =>
        rw [hd] at sends
        rw [Step.andThen_of_none sends.2, emitted_append, sends.1]
        refine ⟨_, happends.trans hlater, .next told (fun x hr => ?_) (fun he => ?_) hchronicle⟩
        · exact Option.some.inj hr ▸ hd
        · rw [isOther] at he
          cases he
      | some e =>
        rw [hd] at sends
        rw [Step.andThen_of_some sends.2, sends.1, sends.2]
        exact ⟨records, happends, .undelivered told hd⟩
    | heard told silent ends =>
      by_cases hx : isExit v ∧ (setup.leave (exitHost setup v s) s.lifecycle.exitCode).1 = true
      · rw [if_pos hx] at ends
        rw [Step.andThen_of_some ends, silent, ends]
        exact ⟨records, happends, .exit told hx.1 hx.2⟩
      · rw [if_neg hx] at ends
        rw [Step.andThen_of_none ends, emitted_append, silent]
        refine ⟨_, happends.trans hlater, .next told (fun _ hr => by cases hr) (fun he => ?_) hchronicle⟩
        exact Bool.eq_false_iff.2 fun hl => hx ⟨he, hl⟩

end Steps

/-- What the trace of a server says about its runs. The trace grows by the records of the messages that were
dispatched and by nothing else, and the record of a notification is in it before its handler runs, whatever came
before. No record is left out where all answers can be shown and the trace has room for all messages. -/
theorem run_traces {setup : Setup σ} {t : Tracing σ} {file : σ → Option Text} (h : setup.KeepsTrace t file)
    {host : σ} (hs : (file host).isSome) (vs : List Json) (hv : ∀ v ∈ vs, v.IsDecoded true)
    (hf : ∀ m ∈ vs.flatMap flattened, hasDouble m = false) :
    (∃ records, Appends (file host) (file (run setup vs (.start host)).state.host) records ∧
        Chronicle setup t.limit (.start host) (vs.flatMap flattened) (emitted (run setup vs (.start host)).events)
          records (run setup vs (.start host)).halt) ∧
      (∀ m ∈ vs.flatMap flattened, ∀ method, method? m = some method → id? m = none → setup.fits m → ∀ past,
        ∃ records, Told t.limit m none records ∧
          Announces setup file m method (stateAfter setup past (.start host)) records) ∧
      (setup.IsShown → (∀ m ∈ vs.flatMap flattened, setup.fits m) →
        ∀ r, (run setup vs (.start host)).halt ≠ some (.raised r)) := by
  have hr : ∀ m ∈ vs.flatMap flattened, Rpc.IsRecordable m := fun m hm => by
    obtain ⟨v, hvs, hmv⟩ := List.mem_flatMap.1 hm
    exact isRecordable_of_isDecoded (isDecoded_of_mem_flattened (hv v hvs) hmv) (hf m hm)
  obtain ⟨records, happends, hchronicle⟩ := each_chronicle h (s := .start host) hs _ hr rfl
  rw [← run_eq_each] at happends hchronicle
  refine ⟨⟨records, happends, hchronicle⟩, fun m hm method hmethod hi hfits past => ?_,
    fun hshown hfits => hchronicle.not_raised hshown hfits⟩
  · obtain ⟨records, htold, hannounces, -⟩ :=
      notification_told h (stateAfter_isSome h (s := .start host) hs past) (stateAfter_traceClosed setup past _) hfits
        hmethod hi (hr m hm)
    exact ⟨records, htold, hannounces⟩

section Files

/-- What is in the file at a place, if there is one. -/
def fileAt (place : File.Place) (files : File.System) : Option Text :=
  match files.get? place with
  | some (.file content) => some content
  | _ => none

theorem fileAt_eq_some {place : File.Place} {files : File.System} {content : Text} :
    fileAt place files = some content ↔ files.get? place = some (.file content) := by
  unfold fileAt
  split
  · rename_i content' h
    rw [h, Option.some.injEq, Option.some.injEq, File.Entry.file.injEq]
  · rename_i h
    exact ⟨fun h' => (nomatch h'), fun h' => absurd h' (h content)⟩

/-- Text that is added to a file stands at its end. -/
theorem fileAt_write {place : File.Place} {files : File.System} {content : Text}
    (h : fileAt place files = some content) (t : Text) :
    ∃ after, files.write place none t = .ok after ∧ fileAt place after = some (content ++ t) := by
  rw [fileAt_eq_some] at h
  have hp : place ≠ [] := by
    rintro rfl
    simp [File.System.get?] at h
  have hw : files.write place none t = .ok (files.put place (some (.file (content ++ t)))) := by
    have hd : content.drop (content.length + t.length) = [] := List.drop_of_length_le (Nat.le_add_right ..)
    simp [File.System.write, h, hd]
  exact ⟨_, hw, fileAt_eq_some.2 (files.get?_put _ hp)⟩

/-- A server keeps the trace that its settings ask for if that is a file, which neither the backend nor a program writes
to. -/
theorem Setup.keepsTrace_ofConfig (c : Config) (platform : Text)
    {ask : File.System → Store → Query → Answer × Store × File.System}
    {launch : File.System → List Text → Answer × File.System} (time : Nat → Moment) {place : File.Place}
    (clock : Nat → Binary64) (account : File.System → Fault → Text)
    (hask : ∀ files store q, fileAt place (ask files store q).2.2 = fileAt place files)
    (hlaunch : ∀ files argv, fileAt place (launch files argv).2 = fileAt place files) :
    (Setup.ofConfig c platform ask launch (some (tracingOf c time place)) clock account).KeepsTrace
      (tracingOf c time place) (fileAt place) where
  tracing := rfl
  write files text h line hl := by
    obtain ⟨after, hw, ha⟩ := fileAt_write h (line ++ Text.ofString "\n")
    simp only [tracingOf, Text.octets_line hl, hw, true_and]
    exact ha
  ask files _ store q := hask files store q
  launch files _ argv := hlaunch files argv
  leave _ _ _ := rfl

end Files

/-- Settings with a trace that shows short texts only. -/
def shortTrace : Config := { Config.default with traceFile := "trace.log", traceLimit := 4 }

def tracePlace : File.Place := File.placeOf "tmp/work/trace.log"

/-- The files when the trace has been opened. -/
def openedFiles : File.System := ((openTrace shortTrace File.standardSystem).toOption.map Prod.fst).getD ⟨[], []⟩

/-- How this trace is kept. -/
def shortTracing : Tracing File.System := tracingOf shortTrace (fun _ => ⟨⟨1970, 1, 1⟩, 0, 0, 0, 0, none⟩) tracePlace

/-- A server that keeps this trace and has nothing else around it. -/
def chronicler : Setup File.System :=
  .ofConfig shortTrace "linux" (Backend.reading Backend.empty) (fun files _ => (.result .null, files))
    (some shortTracing) (fun _ => Binary64.ofInt 0) fun _ _ => []

/-- A batch with a request, whose params have half of a surrogate pair, a line break and a long text in them, and with
an exit. -/
def farewellText : Text :=
  "[\x7b\"id\": 1, \"method\": \"shutdown\", \"params\": [\"\\ud800\\n\", \"elided\"]\x7d, " ++
    "\x7b\"method\": \"exit\"\x7d]"

def farewell : Json :=
  .array [.record [("id", .int 1), ("method", Json.string "shutdown"),
      ("params", .array [.text [⟨0xD800, by decide⟩, ⟨0x0A, by decide⟩], Json.string "elided"])],
    .record [("method", Json.string "exit")]]

theorem farewell_isDecoded : farewell.IsDecoded true := by
  have hread : (Json.read farewellText).toOption = some farewell := by decide +kernel
  cases h : Json.read farewellText with
  | error e =>
    rw [h] at hread
    cases hread
  | ok v =>
    rw [h] at hread
    obtain rfl : v = farewell := Option.some.inj hread
    exact Json.read_isDecoded (by decide +kernel) h

theorem isShown_chronicler : chronicler.IsShown :=
  ⟨⟨fun _ _ _ => rfl, fun _ _ => rfl⟩, fun _ => ⟨fun _ _ _ => rfl, fun _ _ => rfl⟩⟩

theorem keepsTrace_chronicler : chronicler.KeepsTrace shortTracing (fileAt tracePlace) :=
  Setup.keepsTrace_ofConfig _ _ _ _ _ (fun _ _ _ => rfl) fun _ _ => rfl

theorem fileAt_openedFiles : fileAt tracePlace openedFiles = some [] := by decide +kernel

theorem run_traces_farewell :
    (openTrace shortTrace File.standardSystem).toOption.bind (·.2) = some tracePlace ∧
      chronicler.KeepsTrace shortTracing (fileAt tracePlace) ∧ farewell.IsDecoded true ∧
      (∀ m ∈ [farewell].flatMap flattened, hasDouble m = false) ∧ chronicler.IsShown ∧
      (∀ m ∈ [farewell].flatMap flattened, chronicler.fits m) ∧
      ∃ records, Appends (some []) (fileAt tracePlace (run chronicler [farewell] (.start openedFiles)).state.host)
          records ∧
        Chronicle chronicler 4 (.start openedFiles) ([farewell].flatMap flattened) [⟨.int 1, .result .null⟩] records
          (some (.exited 0)) := by
  have hf : ∀ m ∈ [farewell].flatMap flattened, hasDouble m = false := by decide +kernel
  have hv : ∀ v ∈ [farewell], v.IsDecoded true := fun v hm => List.mem_singleton.1 hm ▸ farewell_isDecoded
  obtain ⟨records, happends, hchronicle⟩ :=
    (run_traces keepsTrace_chronicler (Option.isSome_of_eq_some fileAt_openedFiles) [farewell] hv hf).1
  have he : emitted (run chronicler [farewell] (.start openedFiles)).events = [⟨.int 1, .result .null⟩] := by
    decide +kernel
  have hh : (run chronicler [farewell] (.start openedFiles)).halt = some (.exited 0) := by decide +kernel
  rw [he, hh] at hchronicle
  rw [fileAt_openedFiles] at happends
  exact ⟨by decide +kernel, keepsTrace_chronicler, farewell_isDecoded, hf, isShown_chronicler, by decide +kernel, records,
    happends, hchronicle⟩

/-- A notification that has no handler, with params that are nested deep. -/
def deepProgress : Json := .record [("method", Json.string "$/progress"), ("params", nested 600)]

theorem nested_isDecoded {doubles : Bool} (n : Nat) : (nested n).IsDecoded doubles := by
  induction n with
  | zero => exact .null
  | succ n ih => exact .array fun v hv => List.mem_singleton.1 hv ▸ ih

theorem deepProgress_isDecoded : deepProgress.IsDecoded false := by
  refine .object (by decide) (by decide) fun m hm => ?_
  rcases List.mem_cons.1 hm with rfl | hm
  · exact .text (by decide)
  · exact List.mem_singleton.1 hm ▸ nested_isDecoded 600

theorem fits_deepProgress : chronicler.fits deepProgress = false := by
  have hp : paramsOf deepProgress = nested 600 := by
    rw [paramsOf, deepProgress, Json.get_record]
    rfl
  have hm : (method? deepProgress).isNone = false := by decide +kernel
  rw [Setup.fits, hm, hp, depth_nested]
  rfl

/-- The trace takes every line, and says nothing of this notification. -/
theorem untold_deepProgress :
    chronicler.KeepsTrace shortTracing (fileAt tracePlace) ∧ chronicler.IsShown ∧ deepProgress.IsDecoded false ∧
      method? deepProgress = some (Text.ofString "$/progress") ∧ id? deepProgress = none ∧
      fileAt tracePlace (run chronicler [deepProgress] (.start openedFiles)).state.host = some [] ∧
      (run chronicler [deepProgress] (.start openedFiles)).halt = some (.raised .tooDeep) := by
  rw [run_of_misfit chronicler [deepProgress] rfl fits_deepProgress]
  exact ⟨keepsTrace_chronicler, isShown_chronicler, deepProgress_isDecoded, by decide +kernel, by decide +kernel,
    fileAt_openedFiles, rfl⟩

end Server

end LspEndpoint
