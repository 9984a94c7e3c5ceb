import LspEndpoint.Rpc.Response

/-!
Responses as a client gets them: the envelope around a result or an error, and the code that is read off it, which is
the one that the trace names.
-/
namespace LspEndpoint

theorem Json.get_record (members : List (String × Json)) (key : String) :
    (record members).get key = (members.lookup key).getD .null := by
  have hl : (members.map fun m => (Text.ofString m.1, m.2)).lookup (Text.ofString key) = members.lookup key := by
    induction members with
    | nil => rfl
    | cons m rest ih =>
      obtain ⟨k, v⟩ := m
      by_cases h : key = k
      · simp [h]
      · have ht : Text.ofString key ≠ Text.ofString k := mt Text.ofString_injective h
        simpa only [List.map_cons, List.lookup_cons, beq_eq_false_iff_ne.2 ht, beq_eq_false_iff_ne.2 h] using ih
  rw [record, get_object, hl]

namespace Rpc

def resultEnvelope (id value : Json) : Json :=
  .record [("jsonrpc", Json.string "2.0"), ("id", id), ("result", value)]

/-- Null data are left out. -/
def errorEnvelope (id : Json) (code : Int) (message : Text) (data : Json) : Json :=
  .record [("jsonrpc", Json.string "2.0"), ("id", id),
    ("error", .record ([("code", .int code), ("message", .text message)] ++
      if data = .null then [] else [("data", data)]))]

/-- The code of the error that stands in an envelope. -/
def errorCode? (envelope : Json) : Option Int :=
  match (envelope.get "error").get "code" with
  | .int code => some code
  | _ => none

/-- The code of the error that a client is sent. -/
def Response.code? (r : Response) : Option Int := r.toJson.toOption.bind errorCode?

variable {r : Response}

theorem toJson_of_result {value : Json} (h : r.reply = .result value) :
    r.toJson = .ok (resultEnvelope r.id value) := by
  rw [Response.toJson, h]
  rfl

theorem toJson_of_error {e : Error} (h : r.reply = .error e) :
    r.toJson = .ok (errorEnvelope r.id e.code e.message e.data) := by
  obtain ⟨code, message, data⟩ := e
  rw [Response.toJson, h]
  cases data <;> rfl

theorem errorCode?_errorEnvelope (id : Json) (code : Int) (message : Text) (data : Json) :
    errorCode? (errorEnvelope id code message data) = some code := by
  have he : (errorEnvelope id code message data).get "error" = .record ([("code", .int code),
      ("message", .text message)] ++ if data = .null then [] else [("data", data)]) := by
    rw [errorEnvelope, Json.get_record]
    rfl
  rw [errorCode?, he, Json.get_record]
  rfl

theorem errorCode?_resultEnvelope (id value : Json) : errorCode? (resultEnvelope id value) = none := by
  have he : (resultEnvelope id value).get "error" = .null := by
    rw [resultEnvelope, Json.get_record]
    rfl
  rw [errorCode?, he]
  rfl

namespace Response

theorem code?_of_error {e : Error} (h : r.reply = .error e) : r.code? = some e.code := by
  rw [code?, toJson_of_error h]
  exact errorCode?_errorEnvelope ..

theorem code?_eq_none (h : ∀ e, r.reply ≠ .error e) : r.code? = none := by
  cases hr : r.reply with
  | result value =>
    rw [code?, toJson_of_result hr]
    exact errorCode?_resultEnvelope ..
  | unwritable reason =>
    rw [code?, toJson, hr]
    rfl
  | error e => exact absurd hr (h e)

/-- A client is sent the code of an error exactly if it is answered with that error. -/
theorem code?_eq_some {code : Int} : r.code? = some code ↔ ∃ e, r.reply = .error e ∧ e.code = code := by
  by_cases h : ∃ e, r.reply = .error e
  · obtain ⟨e, he⟩ := h
    simp [code?_of_error he, he]
  · simp only [not_exists] at h
    simp [code?_eq_none h, h]

/-- The trace names the code that the client is sent, if it can be shown, and success if there is none. -/
theorem status?_eq (r : Response) :
    r.status? = match r.code? with
      | none => some (Text.ofString "success")
      | some code => if Integer.isShown code then some (Text.ofInt code) else none := by
  rw [status?]
  cases hr : r.reply with
  | error e => rw [code?_of_error hr]
  | _ => rw [code?_eq_none (fun e => by rw [hr]; exact nofun)]

/-- The trace names an error by the code that the client is sent, and all else a success. -/
theorem eq_of_status? {status : Text} (h : r.status? = some status) :
    (∀ code, r.code? = some code → status = Text.ofInt code) ∧ (r.code? = none → status = Text.ofString "success") := by
  rw [status?_eq] at h
  cases hc : r.code? with
  | none =>
    rw [hc] at h
    exact ⟨nofun, fun _ => (Option.some.inj h).symm⟩
  | some code =>
    rw [hc] at h
    obtain ⟨-, hs⟩ := Option.ite_none_right_eq_some.1 h
    exact ⟨fun code' hc' => Option.some.inj hc' ▸ (Option.some.inj hs).symm, nofun⟩

theorem exists_status? (h : ∀ code, r.code? = some code → Integer.isShown code) :
    ∃ status, r.status? = some status := by
  rw [status?_eq]
  cases hc : r.code? with
  | none => exact ⟨_, rfl⟩
  | some code => exact ⟨_, if_pos (h code hc)⟩

end Response

end Rpc

end LspEndpoint
