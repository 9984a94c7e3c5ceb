import LspEndpoint.Proofs.Document.Notice
import LspEndpoint.Proofs.Server.Lifecycle

/-!
What a message leaves alone. The lifecycle changes with a shutdown and with an initialization that is accepted, the
open documents with a notice that applies to them, and nothing else changes either: no refusal, no fault, nothing
that is unknown, malformed or sent in the wrong way.
-/
namespace LspEndpoint

namespace Rpc

/-- The notice that a message gives: it is a notification of that kind, with sound params. -/
def notice? (v : Json) : Option Notice :=
  if id? v = none then
    ((method? v).bind NotificationMethod.ofText?).bind fun m => Notice.ofParams? m (paramsOf v)
  else none

theorem notice?_eq_none_of_id {v id : Json} (h : id? v = some id) : notice? v = none := by
  rw [notice?, if_neg (by simp [h])]

theorem notice?_eq_none_of_method {v : Json} (h : (method? v).bind NotificationMethod.ofText? = none) :
    notice? v = none := by
  rw [notice?, h, Option.bind_none, ite_self]

end Rpc

/-- The documents after a message. -/
def Store.after (s : Store) (v : Json) : Store :=
  match Rpc.notice? v with
  | none => s
  | some n => s.heed n

namespace Server

open Rpc

variable {σ : Type}

/-- A backend that only reads the documents. -/
def Setup.SparesDocuments (setup : Setup σ) : Prop :=
  ∀ host store q, (setup.ask host store q).2.1 = store

section Handlers

/-- What a notification makes of the documents is what its notice makes of them. -/
theorem notified_fst (m : NotificationMethod) (params : Json) (store : Store) :
    (notified m params store).1 = match Notice.ofParams? m params with
      | none => store
      | some n => store.heed n := by
  cases m with
  | exit => rfl
  | didOpen => simp only [notified, Notice.ofParams?]; cases Params.didOpen params <;> rfl
  | didChange => simp only [notified, Notice.ofParams?]; cases Params.didChange params <;> rfl
  | didClose => simp only [notified, Notice.ofParams?]; cases Params.didClose params <;> rfl

theorem heard_store (setup : Setup σ) (method : Text) (params : Json) (s : State σ) :
    (heard setup method params s).state.store =
      match (NotificationMethod.ofText? method).bind fun m => Notice.ofParams? m params with
      | none => s.store
      | some n => s.store.heed n := by
  have hh := heard_hears setup method params s
  generalize heard setup method params s = a at hh
  cases hh with
  | unknown unknown => rw [unknown]; rfl
  | exited known => rw [known]; rfl
  | noticed known => rw [known]; exact notified_fst _ params s.store
  | failed known => rw [known]; exact notified_fst _ params s.store

variable {setup : Setup σ} {s : State σ} {m : RequestMethod} {h : Handled σ}

theorem Handles.store (hs : setup.SparesDocuments) (hh : Handles setup s m h) : h.state.store = s.store := by
  cases hh with
  | asked operation q => exact hs ..
  | _ => rfl

theorem replied_store (hs : setup.SparesDocuments) (method : Text) (params : Json) (s : State σ) :
    (replied setup method params s).1.state.store = s.store := by
  rcases replied_cases setup method params s with h | ⟨m, h, -, -, hh, hc⟩
  · rw [h]
    rfl
  · rw [hc.state, hh.store hs]

end Handlers

section Frame

variable {setup : Setup σ}

/-- A step that leaves the lifecycle and the documents as they were. -/
structure Step.Spares (a : Step σ) (s : State σ) : Prop where
  lifecycle : a.state.lifecycle = s.lifecycle
  store : a.state.store = s.store

/-- A step that has no effect: whatever it answers, nothing changes, nobody is asked, nothing is run and no way out is
taken. -/
structure Step.Inert (a : Step σ) (s : State σ) : Prop extends a.Spares s where
  deeds : deeds a.events = []

theorem Step.Bides.inert {a : Step σ} {s : State σ} (h : a.Bides s) : a.Inert s :=
  ⟨⟨h.agrees.lifecycle, h.agrees.store⟩, h.deeds⟩

/-- A message makes of the documents what its notice makes of them. -/
theorem dispatched_store (hs : setup.SparesDocuments) (v : Json) {s : State σ} (h : s.traceClosed = false) :
    (dispatched setup v s).state.store = if setup.fits v then s.store.after v else s.store := by
  cases hf : setup.fits v with
  | false =>
    rw [dispatched_of_misfit hf]
    rfl
  | true =>
    rw [if_pos rfl]
    cases hm : method? v with
    | none =>
      rw [dispatched_of_invalid hm, emit_state, Store.after, notice?_eq_none_of_method (by rw [hm]; rfl)]
    | some method =>
      cases hi : id? v with
      | some id =>
        have ha := request_attended setup id method (.inr h) (Setup.hasRoom_of_fits hf hm)
        rw [dispatched_of_request hm hi, ha.state.store, replied_store hs, (begun_agrees ..).store, Store.after,
          notice?_eq_none_of_id hi]
      | none =>
        have hn : notice? v =
            (NotificationMethod.ofText? method).bind fun m => Notice.ofParams? m (paramsOf v) := by
          rw [notice?, if_pos hi, hm, Option.bind_some]
        rw [dispatched_of_notification hm hi, notification_begun (.inr h) (Setup.hasRoom_of_fits hf hm), heard_store,
          (traced_bides ..).agrees.store, Store.after, hn]

/-- A request whose method is unknown, or known for notifications only, is answered so and has no effect. -/
theorem request_of_unknown (setup : Setup σ) (id : Json) {method : Text} {params : Json} {s : State σ}
    (h : s.traceClosed = false) (hroom : setup.hasRoom params.depth) (hr : RequestMethod.ofText? method = none) :
    (request setup id method params s).Inert s ∧
      responseTo setup id method params s = ⟨id, unknownMethod method⟩ ∧
      (request setup id method params s).Sends setup ⟨id, unknownMethod method⟩ := by
  have ha := request_attended setup id method (.inr h) hroom
  have hreplied := replied_of_unknown hr setup params (begun setup id method params s)
  have hresponse : responseTo setup id method params s = ⟨id, unknownMethod method⟩ := by
    rw [responseTo, hreplied]
  have hnamed : setup.canName (responseTo setup id method params s) := by
    rw [Setup.canName_iff, hresponse, Response.code?_of_error rfl]
    rintro code - hcode
    cases hcode
    exact Integer.isShown_of_natAbs_lt (n := -32601) (by decide)
  have hstate := ha.state
  have hdeeds := ha.deeds
  have hsends := ha.sends
  rw [hreplied] at hstate hdeeds hsends
  refine ⟨Step.Bides.inert ⟨hstate.trans (begun_agrees ..), hdeeds⟩, hresponse, ?_⟩
  rw [← hresponse]
  exact hsends rfl hnamed

/-- A client tells that a document is open. -/
def opening (uri text : String) : Json :=
  .record [("method", Json.string "textDocument/didOpen"),
    ("params", .record [("textDocument", .record [("uri", Json.string uri), ("text", Json.string text)])])]

/-- An exit with an id. -/
def exitRequest : Json := .record [("id", .int 7), ("method", Json.string "exit")]

end Frame

end Server

end LspEndpoint
