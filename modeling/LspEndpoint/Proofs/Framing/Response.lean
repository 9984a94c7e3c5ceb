import LspEndpoint.Proofs.Json.Encoding
import LspEndpoint.Server.Start

/-!
Sending responses. A response is sent, as one frame around its written form, exactly if it has a written form and no
text in it holds a surrogate.
-/
namespace LspEndpoint

namespace Rpc

/-- The response has a written form, in which no surrogate stands. -/
def Response.isEncodable (r : Response) : Bool :=
  match r.reply with
  | .result v => r.id.isEncodable && v.isEncodable
  | .unwritable _ => false
  | .error e => r.id.isEncodable && (e.message.isScalar && e.data.isEncodable)

theorem isEncodable_record (key : String) (id value : Json) :
    (Json.record [("jsonrpc", Json.string "2.0"), ("id", id), (key, value)]).isEncodable =
      (id.isEncodable && ((Text.ofString key).isScalar && value.isEncodable)) := by
  have hj : (Text.ofString "jsonrpc").isScalar ∧ (Text.ofString "id").isScalar ∧ (Text.ofString "2.0").isScalar := by
    decide
  simp [Json.record, Json.string, Json.isEncodable, Json.membersEncodable, hj]

theorem Error.isEncodable_toJson (e : Error) : e.toJson.isEncodable = (e.message.isScalar && e.data.isEncodable) := by
  have hk : (Text.ofString "code").isScalar ∧ (Text.ofString "message").isScalar ∧ (Text.ofString "data").isScalar := by
    decide
  unfold Error.toJson
  split
  · rename_i hd
    simp [Json.record, Json.isEncodable, Json.membersEncodable, hk, hd]
  · simp [Json.record, Json.isEncodable, Json.membersEncodable, hk]

theorem Response.isEncodable_toJson {r : Response} {v : Json} (h : r.toJson = .ok v) :
    v.isEncodable = r.isEncodable := by
  have hkeys : (Text.ofString "result").isScalar ∧ (Text.ofString "error").isScalar := by decide
  obtain ⟨id, reply⟩ := r
  cases reply with
  | result w =>
    rw [← Except.ok.inj h, isEncodable_record, hkeys.1, Bool.true_and]
    rfl
  | unwritable reason => cases h
  | error e =>
    rw [← Except.ok.inj h, isEncodable_record, hkeys.2, Bool.true_and, Error.isEncodable_toJson]
    rfl

/-- What can be sent is sent as one frame around its written form. -/
theorem Response.writeResponse_eq {r : Response} (h : r.isEncodable) :
    ∃ v, r.toJson = .ok v ∧ (v.render false).isScalar ∧
      Framing.writeResponse r = .ok (Framing.frameOf ((v.render false).flatMap CodePoint.utf8)) := by
  cases hj : r.toJson with
  | error e =>
    obtain ⟨id, reply⟩ := r
    cases reply with
    | unwritable reason => cases h
    | _ => cases hj
  | ok v =>
    have hs : (v.render false).isScalar := by rw [Json.isScalar_render_eq, isEncodable_toJson hj, h]
    refine ⟨v, rfl, hs, ?_⟩
    rw [Framing.writeResponse, hj]
    dsimp only
    rw [Framing.write, Text.utf8_of_isScalar hs]

/-- Nothing else can be sent. -/
theorem Response.isEncodable_of_writeResponse {r : Response} {frame : Bytes}
    (h : Framing.writeResponse r = .ok frame) : r.isEncodable := by
  unfold Framing.writeResponse at h
  split at h
  · rename_i v hj
    rw [← isEncodable_toJson hj, ← Json.isScalar_render_eq, ← Text.surrogateRun?_eq_none]
    cases hs : (v.render false).surrogateRun? with
    | none => rfl
    | some e =>
      rw [Framing.write, Text.utf8, hs] at h
      cases h
  · cases h

end Rpc

theorem Server.deliverFramed_eq_none {r : Rpc.Response} : deliverFramed r = none ↔ r.isEncodable := by
  unfold deliverFramed
  constructor
  · intro h
    split at h
    · rename_i frame hw
      exact Rpc.Response.isEncodable_of_writeResponse hw
    · cases h
  · intro h
    obtain ⟨v, -, -, hw⟩ := Rpc.Response.writeResponse_eq h
    rw [hw]

end LspEndpoint
