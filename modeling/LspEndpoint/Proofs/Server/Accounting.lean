import LspEndpoint.Backend.Plain
import LspEndpoint.Proofs.Number.Integer
import LspEndpoint.Proofs.Rpc.Envelope
import LspEndpoint.Proofs.Server.Message
import LspEndpoint.Server.Start

/-!
The responses of a run. The messages of the values that come in are accounted for in order: each is
answered as its own shape says, until an exit ends the run or something is raised in place of an answer. That happens
where a trace is kept of a message that is nested too deep, where a fault cannot be shown, and where a trace is to name
an error whose code cannot be shown.
-/
namespace LspEndpoint

namespace Rpc

/-- The method of an object that has a text for it. -/
def method? (v : Json) : Option Text :=
  match v.get? "method" with
  | some (.text method) => some method
  | _ => none

/-- The id of an object that has a number or a text for it. -/
def id? (v : Json) : Option Json := (v.get? "id").filter isId

/-- The messages of a value: those in a list of objects that is not empty, or the value itself. -/
def flattened : Json → List Json
  | .array items => if items ≠ [] ∧ items.all isObject then items else [.array items]
  | v => [v]

def isShutdown (v : Json) : Bool := method? v = some (Text.ofString "shutdown") ∧ (id? v).isSome

def isExit (v : Json) : Bool := method? v = some (Text.ofString "exit") ∧ id? v = none

theorem isId_get (v : Json) : isId (v.get "id") = (id? v).isSome := by
  unfold id? Json.get
  cases v.get? "id" with
  | none => rfl
  | some id => cases h : isId id <;> simp [Option.filter, h]

theorem idOf_eq (v : Json) : idOf v = (id? v).getD .null := by
  unfold idOf id? Json.get
  cases v.get? "id" with
  | none => rfl
  | some id => cases h : isId id <;> simp [Option.filter, h]

theorem ofJson_of_method {v : Json} {method : Text} (h : method? v = some method) :
    Message.ofJson v = match id? v with
      | some id => .request id method (paramsOf v)
      | none => .notification method (paramsOf v) := by
  have hm : v.get "method" = .text method := by
    unfold method? at h
    split at h
    · rename_i m hm
      rw [Json.get, hm]
      exact congrArg _ (Option.some.inj h)
    · cases h
  rw [Message.ofJson, hm]
  simp only [isId_get, idOf_eq]
  cases id? v <;> rfl

theorem ofJson_of_no_method {v : Json} (h : method? v = none) :
    Message.ofJson v = .invalid ((id? v).getD .null) := by
  unfold method? at h
  unfold Message.ofJson Json.get
  cases hg : v.get? "method" with
  | none => exact congrArg _ (idOf_eq v)
  | some w =>
    rw [hg] at h
    cases w with
    | text method => cases h
    | _ => exact congrArg _ (idOf_eq v)

theorem toList_classify (v : Json) : (classify v).toList = (flattened v).map Message.ofJson := by
  cases v with
  | array items =>
    simp only [classify, flattened]
    split <;> rfl
  | _ => rfl

end Rpc

namespace Answer

/-- An answer that is not an error with a code that cannot be shown. -/
def isNamed : Answer → Bool
  | .refused e => Integer.isShown e.code
  | _ => true

/-- An answer that is not a fault that cannot be shown. -/
def isNoted : Answer → Bool
  | .failed f => f.isShown
  | _ => true

theorem isNamed_map (a : Answer) (f : Json → Json) : (a.map f).isNamed = a.isNamed := by
  cases a <;> rfl

theorem isNoted_map (a : Answer) (f : Json → Json) : (a.map f).isNoted = a.isNoted := by
  cases a <;> rfl

end Answer

namespace Server

open Rpc

variable {σ : Type}

/-- A response with that id and one of a result and an error. A result that tells of the server has no
written form if the server's own description has none. -/
def IsEnvelope (setup : Setup σ) (id : Json) (r : Response) : Prop :=
  (∃ value, r.toJson = .ok (resultEnvelope id value)) ∨
    (∃ code message data, r.toJson = .ok (errorEnvelope id code message data)) ∨
      ∃ e, setup.serverInfo = .error e ∧ r = ⟨id, .unwritable e⟩

/-- The responses that a message is owed: one to a request, none to a notification, and an error to what is
neither. -/
def Owes (setup : Setup σ) (v : Json) (responses : List Response) : Prop :=
  match method? v, id? v with
  | some _, some id => ∃ r, responses = [r] ∧ IsEnvelope setup id r
  | some _, none => responses = []
  | none, id => ∃ r, responses = [r] ∧ r.toJson =
      .ok (errorEnvelope (id.getD .null) (-32600) "The JSON sent is not a valid request object." .null)

/-- What a server does with a value that is one message. -/
def dispatched (setup : Setup σ) (v : Json) : State σ → Step σ := message setup (.ofJson v)

/-- The trace, if there is one, has room for the params of a message. -/
def Setup.fits (setup : Setup σ) (v : Json) : Bool := (method? v).isNone || setup.hasRoom (paramsOf v).depth

/-- What is raised in place of an answer: the trace has no room for the message, the handler of a request comes to a
fault that cannot be shown, or the trace has no name for how the request came out. -/
inductive Raises (setup : Setup σ) (s : State σ) (v : Json) : Raised → Prop
  | tooDeep (misfit : setup.fits v = false) : Raises setup s v .tooDeep
  | unshown {id : Json} {method : Text} {m : RequestMethod} {f : Fault} {r : Raised} (fits : setup.fits v)
      (hasMethod : method? v = some method) (hasId : id? v = some id) (known : RequestMethod.ofText? method = some m)
      (failed : (handled setup m (paramsOf v) (begun setup id method (paramsOf v) s)).outcome = .fault f)
      (raises : f.display = .error r) : Raises setup s v r
  | unnamed {id : Json} {method : Text} {code : Int} (fits : setup.fits v) (hasMethod : method? v = some method)
      (hasId : id? v = some id) (isTraced : setup.tracing.isSome)
      (fails : (responseTo setup id method (paramsOf v) s).code? = some code) (isLong : ¬ Integer.isShown code) :
      Raises setup s v .tooManyDigits

/-- What surrounds a server where it is told that the run is to end. -/
def exitHost (setup : Setup σ) (v : Json) (s : State σ) : σ :=
  (traced setup (.notification "exit" (paramsOf v)) s).state.host

/-- The responses to messages in turn, up to an exit that ends the run or something that is raised. -/
inductive Accounts (setup : Setup σ) : State σ → List Json → List Response → Option Halt → Prop
  | done {s : State σ} : Accounts setup s [] [] none
  | next {s : State σ} {v : Json} {rest : List Json} {first second : List Response} {halt : Option Halt}
      (owes : Owes setup v first)
      (stays : isExit v → (setup.leave (exitHost setup v s) s.lifecycle.exitCode).1 = false)
      (later : Accounts setup (dispatched setup v s).state rest second halt) :
      Accounts setup s (v :: rest) (first ++ second) halt
  | exit {s : State σ} {v : Json} {rest : List Json} (exits : isExit v)
      (leaves : (setup.leave (exitHost setup v s) s.lifecycle.exitCode).1) :
      Accounts setup s (v :: rest) [] (some (.exited s.lifecycle.exitCode))
  | raised {s : State σ} {v : Json} {rest : List Json} {r : Raised} (raises : Raises setup s v r) :
      Accounts setup s (v :: rest) [] (some (.raised r))

/-- All that the backend and the programs answer is so. -/
structure Setup.Answers (setup : Setup σ) (isSo : Answer → Bool) : Prop where
  ask : ∀ host store q, isSo (setup.ask host store q).1
  launch : ∀ host argv, isSo (setup.launch host argv).1

/-- All that the backend and the programs come to can be shown in the log, and named in the trace if there is one. -/
structure Setup.IsShown (setup : Setup σ) : Prop where
  faults : setup.Answers Answer.isNoted
  codes : setup.tracing.isSome → setup.Answers Answer.isNamed

section Shown

variable {setup : Setup σ} {s : State σ} {m : RequestMethod} {h : Handled σ}

/-- The fault that a handler comes to can be shown if the answers can. -/
theorem Handles.isShown (hs : setup.Answers Answer.isNoted) (hh : Handles setup s m h) {f : Fault}
    (ho : h.outcome = .fault f) : f.isShown := by
  have houtcome {a : Answer} (ha : a.isNoted) (ho : outcomeOf a = .fault f) : f.isShown := by
    cases a with
    | failed f' =>
      cases ho
      exact ha
    | _ => cases ho
  cases hh with
  | refused m e => cases ho
  | faulted e =>
    cases ho
    rfl
  | accepted p => cases ho
  | shutDown => cases ho
  | launched argv => exact houtcome ((Answer.isNoted_map _ _).trans (hs.launch s.host argv)) ho
  | asked operation q => exact houtcome (hs.ask s.host s.store q) ho

/-- The code that a handler ends with can be shown if those of the answers can. -/
theorem Handles.isNamed (hs : setup.Answers Answer.isNamed) (hh : Handles setup s m h) {e : Error}
    (ho : h.outcome = .reply (.error e)) : Integer.isShown e.code := by
  have houtcome {a : Answer} (ha : a.isNamed) (ho : outcomeOf a = .reply (.error e)) : Integer.isShown e.code := by
    cases a with
    | refused e' =>
      cases ho
      exact ha
    | _ => cases ho
  cases hh with
  | refused m e =>
    cases ho
    exact Integer.isShown_of_natAbs_lt (n := -32602) (by decide)
  | faulted e => cases ho
  | accepted p =>
    simp only [welcomed] at ho
    split at ho <;> cases ho
  | shutDown => cases ho
  | launched argv => exact houtcome ((Answer.isNamed_map _ _).trans (hs.launch s.host argv)) ho
  | asked operation q => exact houtcome (hs.ask s.host s.store q) ho

/-- The code that a request is answered with can be shown if those of the answers can. -/
theorem isShown_of_code? (hs : setup.Answers Answer.isNamed) {id params : Json} {method : Text} {code : Int}
    (hc : Response.code? ⟨id, (replied setup method params s).2⟩ = some code) : Integer.isShown code := by
  obtain ⟨e, he, rfl⟩ := Response.code?_eq_some.1 hc
  change (replied setup method params s).2 = .error e at he
  rcases replied_cases setup method params s with hr | ⟨m, h, -, -, hh, hc⟩
  · rw [hr] at he
    cases he
    exact Integer.isShown_of_natAbs_lt (n := -32601) (by decide)
  · rw [hc.reply] at he
    cases ho : h.outcome with
    | reply r =>
      rw [ho] at he
      exact hh.isNamed hs (ho.trans (congrArg _ he))
    | fault f =>
      rw [ho] at he
      cases he
      exact Integer.isShown_of_natAbs_lt (n := -32603) (by decide)

end Shown

section Messages

variable {setup : Setup σ} {s : State σ} {v : Json}

theorem isEnvelope_of_reply {id : Json} {reply : Reply} (h : ∀ e, reply = .unwritable e → setup.serverInfo = .error e) :
    IsEnvelope setup id ⟨id, reply⟩ := by
  cases reply with
  | result value => exact .inl ⟨value, toJson_of_result rfl⟩
  | error e => exact .inr (.inl ⟨e.code, e.message, e.data, toJson_of_error rfl⟩)
  | unwritable e => exact .inr (.inr ⟨e, h e rfl, rfl⟩)

theorem dispatched_of_misfit (h : setup.fits v = false) (s : State σ) :
    dispatched setup v s = .raising s .tooDeep := by
  simp only [Setup.fits, Bool.or_eq_false_iff, Option.isNone_eq_false_iff] at h
  obtain ⟨method, hm⟩ := Option.isSome_iff_exists.1 h.1
  rw [dispatched, ofJson_of_method hm]
  cases id? v with
  | some id => exact request_of_deep id method h.2
  | none => exact notification_of_deep h.2 s

theorem Setup.hasRoom_of_fits {method : Text} (h : setup.fits v) (hm : method? v = some method) :
    setup.hasRoom (paramsOf v).depth := by
  simpa [fits, hm] using h

theorem Setup.canName_iff {r : Response} :
    setup.canName r ↔ ∀ code, setup.tracing.isSome → r.code? = some code → Integer.isShown code := by
  rw [canName, r.status?_eq]
  cases setup.tracing <;> cases r.code? <;> simp

/-- What is sent for a message that has a response: a refusal of what has no method, or the response to a request. -/
inductive Responds (setup : Setup σ) (s : State σ) (v : Json) : Response → Prop
  | refusal (hm : method? v = none) : Responds setup s v (.invalid ((id? v).getD .null))
  | response {id : Json} {method : Text} (hm : method? v = some method) (hi : id? v = some id) :
      Responds setup s v (responseTo setup id method (paramsOf v) s)

theorem Responds.owes {r : Response} (h : Responds setup s v r) : Owes setup v [r] := by
  cases h with
  | refusal hm =>
    simp only [Owes, hm]
    exact ⟨_, rfl, toJson_of_error (r := .invalid ((id? v).getD .null)) rfl⟩
  | response hm hi =>
    simp only [Owes, hm, hi]
    exact ⟨_, rfl, isEnvelope_of_reply fun e he => replied_unwritable he⟩

theorem isNotification_of_owes (h : Owes setup v []) : (method? v).isSome ∧ id? v = none := by
  cases hm : method? v <;> cases hi : id? v <;> simp_all [Owes]

/-- How the handling of a message ends: something is raised in place of an answer, its response is sent, or it is a
notification, which is not answered and goes on unless it is an exit. -/
inductive Ends (setup : Setup σ) (s : State σ) (v : Json) (a : Step σ) : Prop
  | raised {r : Raised} (raises : Raises setup s v r) (stops : a.Raises r)
  | answered {r : Response} (responds : Responds setup s v r) (isOther : isExit v = false) (sends : a.Sends setup r)
  | unanswered (owes : Owes setup v []) (isOther : isExit v = false) (silent : emitted a.events = [])
      (goesOn : a.halt = none)
  | exit (owes : Owes setup v []) (exits : isExit v) (silent : emitted a.events = [])
      (ends : a.halt = if (setup.leave (exitHost setup v s) s.lifecycle.exitCode).1 then
        some (.exited s.lifecycle.exitCode) else none)

theorem dispatched_of_invalid (hm : method? v = none) (s : State σ) :
    dispatched setup v s = emit setup (.invalid ((id? v).getD .null)) s := by
  rw [dispatched, ofJson_of_no_method hm]
  rfl

theorem dispatched_of_request {id : Json} {method : Text} (hm : method? v = some method) (hi : id? v = some id)
    (s : State σ) : dispatched setup v s = request setup id method (paramsOf v) s := by
  rw [dispatched, ofJson_of_method hm, hi]
  rfl

theorem dispatched_of_notification {method : Text} (hm : method? v = some method) (hi : id? v = none) (s : State σ) :
    dispatched setup v s = notification setup method (paramsOf v) s := by
  rw [dispatched, ofJson_of_method hm, hi]
  rfl

theorem raises_of_halt {id : Json} {method : Text} {r : Raised} (hf : setup.fits v) (hm : method? v = some method)
    (hi : id? v = some id)
    (hh : (replied setup method (paramsOf v) (begun setup id method (paramsOf v) s)).1.halt = some (.raised r)) :
    Raises setup s v r := by
  obtain ⟨m, f, hk, hfail, hd⟩ := replied_raises_iff.1 hh
  exact .unshown hf hm hi hk hfail hd

theorem raises_of_unnamed {id : Json} {method : Text} (hf : setup.fits v) (hm : method? v = some method)
    (hi : id? v = some id) (hn : setup.canName (responseTo setup id method (paramsOf v) s) = false) :
    Raises setup s v .tooManyDigits := by
  have hlong := mt Setup.canName_iff.2 (Bool.eq_false_iff.1 hn)
  simp only [Classical.not_forall] at hlong
  obtain ⟨code, ht, hc, hl⟩ := hlong
  exact .unnamed hf hm hi ht hc hl

/-- A request for which the trace has room raises what its handler's fault raises, or what its code raises in the trace,
or it is answered. -/
theorem request_ends {id : Json} {method : Text} (ho : IsOpen setup s) (hf : setup.fits v)
    (hm : method? v = some method) (hi : id? v = some id) : Ends setup s v (dispatched setup v s) := by
  have h := request_attended setup id method ho (Setup.hasRoom_of_fits hf hm)
  rw [dispatched_of_request hm hi]
  rcases replied_halt setup method (paramsOf v) (begun setup id method (paramsOf v) s) with hh | ⟨r, hh⟩
  · cases hn : setup.canName (responseTo setup id method (paramsOf v) s) with
    | true => exact .answered (.response hm hi) (by simp [isExit, hi]) (h.sends hh hn)
    | false => exact .raised (raises_of_unnamed hf hm hi hn) (h.unnamed hh hn)
  · exact .raised (raises_of_halt hf hm hi hh) (h.raises r hh)

theorem notification_ends {method : Text} (ho : IsOpen setup s) (hf : setup.fits v) (hm : method? v = some method)
    (hi : id? v = none) : Ends setup s v (dispatched setup v s) := by
  have howes : Owes setup v [] := by simp only [Owes, hm, hi]
  have hsilent : emitted (dispatched setup v s).events = [] := by
    rw [dispatched_of_notification hm hi, notification_begun ho (Setup.hasRoom_of_fits hf hm), emitted_append,
      emitted_traced, emitted_heard]
    rfl
  have hhalt : (dispatched setup v s).halt =
      (heard setup method (paramsOf v) (traced setup (.notification method (paramsOf v)) s).state).halt := by
    rw [dispatched_of_notification hm hi, notification_begun ho (Setup.hasRoom_of_fits hf hm)]
  by_cases he : method = Text.ofString "exit"
  · subst he
    refine .exit howes (by simp [isExit, hm, hi]) hsilent (hhalt.trans ?_)
    rw [heard_of_exit, exited, (traced_bides setup (.notification "exit" (paramsOf v)) s).agrees.lifecycle]
    rfl
  · exact .unanswered howes (by simp [isExit, hm, he]) hsilent (hhalt.trans (heard_of_not_exit he ..).1)

theorem dispatched_ends (ho : IsOpen setup s) (v : Json) : Ends setup s v (dispatched setup v s) := by
  cases hf : setup.fits v with
  | false =>
    rw [dispatched_of_misfit hf]
    exact .raised (.tooDeep hf) (Step.raising_raises s _)
  | true =>
    cases hm : method? v with
    | none =>
      rw [dispatched_of_invalid hm]
      exact .answered (.refusal hm) (by simp [isExit, hm]) (emit_sends setup _ s)
    | some method =>
      cases hi : id? v with
      | some id => exact request_ends ho hf hm hi
      | none => exact notification_ends ho hf hm hi

/-- Whatever is raised in place of an answer stops the server. -/
theorem Raises.stops {r : Raised} (h : Raises setup s v r) (ho : IsOpen setup s) :
    (dispatched setup v s).Raises r := by
  cases h with
  | tooDeep misfit =>
    rw [dispatched_of_misfit misfit]
    exact Step.raising_raises s _
  | unshown fits hm hi known failed raises =>
    rw [dispatched_of_request hm hi]
    exact (request_attended _ _ _ ho (Setup.hasRoom_of_fits fits hm)).raises r
      (replied_raises_iff.2 ⟨_, _, known, failed, raises⟩)
  | @unnamed id method code fits hm hi isTraced fails isLong =>
    have hn : setup.canName (responseTo setup id method (paramsOf v) s) = false :=
      Bool.eq_false_iff.2 fun h => isLong (Setup.canName_iff.1 h code isTraced fails)
    rw [dispatched_of_request hm hi]
    refine (request_attended _ _ _ ho (Setup.hasRoom_of_fits fits hm)).unnamed ?_ hn
    rcases replied_halt setup method (paramsOf v) (begun setup id method (paramsOf v) s) with hh | ⟨r, hh⟩
    · exact hh
    · -- An internal error, which a fault is told as, has a code that can be shown.
      obtain ⟨m, f, hk, hfail, -⟩ := replied_raises_iff.1 hh
      have hreply := (replied_conveys hk setup (paramsOf v) (begun setup id method (paramsOf v) s)).reply
      rw [hfail] at hreply
      rw [Response.code?_of_error hreply] at fails
      cases fails
      exact absurd (Integer.isShown_of_natAbs_lt (n := -32603) (by decide)) isLong

theorem fits_of_goesOn (h : (dispatched setup v s).halt = none) : setup.fits v := by
  cases hf : setup.fits v with
  | true => rfl
  | false =>
    rw [dispatched_of_misfit hf] at h
    cases h

/-- It is for its depth only that what is not a request raises something. -/
theorem Raises.id?_of_fits {r : Raised} (h : Raises setup s v r) (hf : setup.fits v) : ∃ id, id? v = some id := by
  cases h with
  | tooDeep misfit =>
    rw [hf] at misfit
    cases misfit
  | unshown _ _ hasId => exact ⟨_, hasId⟩
  | unnamed _ _ hasId => exact ⟨_, hasId⟩

/-- Where all answers can be shown, it is for its depth only that a message raises something. -/
theorem Raises.misfit {r : Raised} (h : Raises setup s v r) (hs : setup.IsShown) : setup.fits v = false := by
  cases h with
  | tooDeep misfit => exact misfit
  | @unshown id method m f r fits hm hi known failed raises =>
    obtain ⟨shown, hd⟩ := Fault.isShown_iff.1 ((handled_handles ..).isShown hs.faults failed)
    cases hd.symm.trans raises
  | unnamed fits hm hi isTraced fails isLong => exact absurd (isShown_of_code? (hs.codes isTraced) fails) isLong

end Messages

section Runs

variable {setup : Setup σ}

theorem process_eq_each (setup : Setup σ) (v : Json) :
    process setup v = Step.each (dispatched setup) (flattened v) := by
  rw [process, toList_classify, Step.each_map]
  rfl

theorem run_eq_each (setup : Setup σ) (vs : List Json) :
    run setup vs = Step.each (dispatched setup) (vs.flatMap flattened) := by
  rw [Step.each_flatMap, run, funext (process_eq_each setup)]

theorem run_of_misfit (setup : Setup σ) (vs : List Json) {v : Json} {rest : List Json}
    (hvs : vs.flatMap flattened = v :: rest) (hf : setup.fits v = false) (s : State σ) :
    run setup vs s = .raising s .tooDeep := by
  rw [run_eq_each, hvs, Step.each, dispatched_of_misfit hf, Step.raising_andThen]

/-- What every stage of the handling keeps is kept by all of it. -/
theorem dispatched_keeps {P : State σ → Prop} (htraced : ∀ e s, P s → P (traced setup e s).state)
    (hreplied : ∀ method params s, P s → P (replied setup method params (tick s)).1.state)
    (hended : ∀ start r s, P s → P (tracedEnd setup start r s).state)
    (hheard : ∀ method params s, P s → P (heard setup method params s).state) (v : Json) {s : State σ} (hs : P s) :
    P (dispatched setup v s).state := by
  cases hm : method? v with
  | none =>
    rw [dispatched_of_invalid hm, emit_state]
    exact hs
  | some method =>
    cases hi : id? v with
    | some id =>
      rw [dispatched_of_request hm hi, request_eq]
      refine Step.andThen_state (P := P) (htraced _ s hs) fun u hu => ?_
      refine Step.andThen_state (P := P) (hreplied method _ u hu) fun w hw => ?_
      rw [concluded_state]
      exact hended _ _ w hw
    | none =>
      rw [dispatched_of_notification hm hi, notification_eq]
      exact Step.andThen_state (P := P) (htraced _ s hs) (hheard method _)

theorem dispatched_traceClosed (setup : Setup σ) (v : Json) (s : State σ) :
    (dispatched setup v s).state.traceClosed = s.traceClosed :=
  dispatched_keeps (P := fun u => u.traceClosed = s.traceClosed)
    (fun e u hu => (traced_bides setup e u).agrees.traceClosed.trans hu)
    (fun method params u hu => (replied_traceClosed setup method params (tick u)).trans hu)
    (fun start r u hu => (tracedEnd_bides setup start r u).agrees.traceClosed.trans hu)
    (fun method params u hu => (heard_traceClosed setup method params u).trans hu) v rfl

theorem each_accounts (setup : Setup σ) (hd : ∀ r, setup.deliver r = none) (ms : List Json) {s : State σ}
    (ho : IsOpen setup s) :
    Accounts setup s ms (emitted (Step.each (dispatched setup) ms s).events)
      (Step.each (dispatched setup) ms s).halt := by
  induction ms generalizing s with
  | nil => exact .done
  | cons v rest ih =>
    have hlater := ih (ho.of_closed (dispatched_traceClosed setup v s))
    rw [Step.each]
    cases dispatched_ends ho v with
    | raised raises stops =>
      rw [Step.andThen_of_some stops.halt, stops.emitted, stops.halt]
      exact .raised raises
    | answered responds isOther sends =>
      obtain ⟨he, hh⟩ := sends.of_delivered (hd _)
      rw [Step.andThen_of_none hh, emitted_append, he]
      exact .next responds.owes (fun hx => by simp [isOther] at hx) hlater
    | unanswered owes isOther silent goesOn =>
      rw [Step.andThen_of_none goesOn, emitted_append, silent]
      exact .next owes (fun hx => by simp [isOther] at hx) hlater
    | exit owes exits silent ends =>
      cases hl : (setup.leave (exitHost setup v s) s.lifecycle.exitCode).1 with
      | true =>
        rw [hl, if_pos rfl] at ends
        rw [Step.andThen_of_some ends, silent, ends]
        exact .exit exits hl
      | false =>
        rw [hl, if_neg Bool.false_ne_true] at ends
        rw [Step.andThen_of_none ends, emitted_append, silent]
        exact .next owes (fun _ => hl) hlater

/-- Messages are accounted for to the end, up to an exit, or up to one for which something is raised. -/
theorem Accounts.stops {s : State σ} {ms : List Json} {responses : List Response} {halt : Option Halt}
    (h : Accounts setup s ms responses halt) :
    halt = none ∨ (∃ code, halt = some (.exited code)) ∨
      ∃ v ∈ ms, ∃ u r, Raises setup u v r ∧ halt = some (.raised r) := by
  induction h with
  | done => exact .inl rfl
  | next _ _ _ ih =>
    refine ih.imp_right (Or.imp_right ?_)
    rintro ⟨v, hv, hraises⟩
    exact ⟨v, List.mem_cons_of_mem _ hv, hraises⟩
  | exit _ _ => exact .inr (.inl ⟨_, rfl⟩)
  | raised raises => exact .inr (.inr ⟨_, List.mem_cons_self .., _, _, raises, rfl⟩)

/-- Nothing is raised where every message fits and every answer can be shown. -/
theorem Accounts.not_raised (hs : setup.IsShown) {s : State σ} {ms : List Json} {responses : List Response}
    {halt : Option Halt} (h : Accounts setup s ms responses halt) (hf : ∀ v ∈ ms, setup.fits v) (r : Raised) :
    halt ≠ some (.raised r) := by
  rcases h.stops with rfl | ⟨code, rfl⟩ | ⟨v, hv, u, x, hraises, -⟩
  · exact nofun
  · exact nofun
  · have hfits := hf v hv
    rw [hraises.misfit hs] at hfits
    cases hfits

/-- Whatever comes in, what a server emits is what the messages are owed, in their order, and it is stopped by an exit
only, unless something is raised; and nothing is, if all answers can be shown and the trace has room for all messages. -/
theorem run_accounts (setup : Setup σ) (hd : ∀ r, setup.deliver r = none) (vs : List Json)
    (s : State σ) (ho : IsOpen setup s) :
    Accounts setup s (vs.flatMap flattened) (emitted (run setup vs s).events) (run setup vs s).halt ∧
      (setup.IsShown → (∀ v ∈ vs.flatMap flattened, setup.fits v) → ∀ r, (run setup vs s).halt ≠ some (.raised r)) := by
  rw [run_eq_each]
  have h := each_accounts setup hd (vs.flatMap flattened) ho
  exact ⟨h, fun hs hf => h.not_raised hs hf⟩

end Runs

/-- A server with nothing around it. -/
def bare : Setup Unit where
  serverInfo := .ok .null
  openCommand := []
  ask := Backend.reading Backend.empty
  launch _ _ := (.result .null, ())
  tracing := none
  clock _ := Binary64.ofInt 0
  deliver _ := none
  leave _ _ := (true, ())
  account _ _ := []

/-- A batch with an exit between two requests. -/
def exitInBatch : Json :=
  .array [.record [("method", Json.string "shutdown"), ("id", .int 7)],
    .record [("method", Json.string "exit")],
    .record [("method", Json.string "shutdown"), ("id", .int 8)]]

theorem isShown_bare : bare.IsShown := ⟨⟨fun _ _ _ => rfl, fun _ _ => rfl⟩, nofun⟩

theorem run_accounts_exitInBatch :
    bare.IsShown ∧ (∀ v ∈ [exitInBatch].flatMap flattened, bare.fits v) ∧
      Accounts bare (.start ()) ([exitInBatch].flatMap flattened) [⟨.int 7, .result .null⟩] (some (.exited 0)) := by
  have hf : ∀ v ∈ [exitInBatch].flatMap flattened, bare.fits v := by decide
  have h := (run_accounts bare (fun _ => rfl) [exitInBatch] (.start ()) (.inl rfl)).1
  have he : emitted (run bare [exitInBatch] (.start ())).events = [⟨.int 7, .result .null⟩] := by
    decide +kernel
  have hh : (run bare [exitInBatch] (.start ())).halt = some (.exited 0) := by decide +kernel
  rw [he, hh] at h
  exact ⟨isShown_bare, hf, h⟩

/-- A server with nothing around it but a trace, which takes every line. -/
def recording : Setup Unit :=
  { bare with
    tracing := some
      { limit := 200
        depth := stackRoom
        time := fun _ => ⟨⟨1970, 1, 1⟩, 0, 0, 0, 0, none⟩
        write := fun host _ => (none, host)
        close := fun _ _ => none } }

/-- Lists that stand in each other, that many of them. -/
def nested : Nat → Json
  | 0 => .null
  | n + 1 => .array [nested n]

theorem depth_nested (n : Nat) : (nested n).depth = n := by
  induction n with
  | zero => rfl
  | succ n ih => rw [nested, Json.depth, Json.depthItems, Json.depthItems, ih, Nat.max_zero]

/-- A request to shut down, with params that are nested deep. -/
def deepShutdown : Json := .record [("id", .int 1), ("method", Json.string "shutdown"), ("params", nested 600)]

theorem fits_deepShutdown : recording.fits deepShutdown = false := by
  have hp : paramsOf deepShutdown = nested 600 := by
    rw [paramsOf, deepShutdown, Json.get_record]
    rfl
  have hm : (method? deepShutdown).isNone = false := by decide +kernel
  rw [Setup.fits, hm, hp, depth_nested]
  rfl

/-- Two requests in a batch, of which the first is traced in vain: neither is answered. -/
def deepBatch : Json := .array [deepShutdown, .record [("id", .int 2), ("method", Json.string "shutdown")]]

theorem unanswered_deepBatch :
    (∀ r, recording.deliver r = none) ∧ IsOpen recording (.start ()) ∧ recording.IsShown ∧
      method? deepShutdown = some (Text.ofString "shutdown") ∧ id? deepShutdown = some (.int 1) ∧
      emitted (run recording [deepBatch] (.start ())).events = [] ∧
      (run recording [deepBatch] (.start ())).halt = some (.raised .tooDeep) := by
  rw [run_of_misfit recording [deepBatch] rfl fits_deepShutdown]
  exact ⟨fun _ => rfl, .inr rfl, ⟨⟨fun _ _ _ => rfl, fun _ _ => rfl⟩, fun _ => ⟨fun _ _ _ => rfl, fun _ _ => rfl⟩⟩,
    by decide +kernel, by decide +kernel, rfl, rfl⟩

end Server

end LspEndpoint
