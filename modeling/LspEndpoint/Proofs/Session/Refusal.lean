import LspEndpoint.Proofs.Framing.Response
import LspEndpoint.Proofs.Json.Stuck
import LspEndpoint.Proofs.Session.Refinement

/-!
Payloads that are refused. A payload that is too long, or no document, is answered with a parse error, after which the
session reads on; one with an integer of too many digits where a value is due ends the session.
-/
namespace LspEndpoint

namespace Rpc

/-- What a refusal says is ASCII, whatever the payload was. -/
theorem Rejection.isPrintableAscii_message (e : Rejection) : e.message.isPrintableAscii := by
  have hn (n : Nat) : (Text.ofNat n).isPrintableAscii :=
    Text.isPrintableAscii_of_isDigit fun _ => Text.isDigit_of_mem_ofNat
  cases e with
  | tooLarge size limit =>
    have hw : Text.isPrintableAscii "Message too large: " ∧ Text.isPrintableAscii " bytes exceeds " ∧
        Text.isPrintableAscii " limit" := by
      decide
    simp only [message, Text.isPrintableAscii_append, hw, hn, Json.isPrintableAscii_ofInt, Bool.and_true]
  | unshownLimit => decide
  | unreadable e =>
    cases e with
    | malformed problem place =>
      have hp : (Text.ofString problem.message).isPrintableAscii := by cases problem <;> decide
      have hw : Text.isPrintableAscii "Parse error: " ∧ Text.isPrintableAscii ": line " ∧
          Text.isPrintableAscii " column " ∧ Text.isPrintableAscii " (char " ∧ Text.isPrintableAscii ")" := by
        decide
      simp only [message, Json.Error.message, Text.isPrintableAscii_append, hw, hp, hn, Bool.and_true]
    | tooManyDigits count =>
      have hw : Text.isPrintableAscii
            "Exceeds the limit (4300 digits) for integer string conversion: value has " ∧
          Text.isPrintableAscii
            " digits; use sys.set_int_max_str_digits() to increase the limit" := by
        decide
      simp only [message, Json.Error.message, IntegerError.message, Text.isPrintableAscii_append, hw, hn,
        Bool.and_true]

theorem Rejection.isEncodable_response (e : Rejection) : e.response.isEncodable := by
  have hm := Text.isScalar_of_isPrintableAscii e.isPrintableAscii_message
  simp only [response, Response.ofError, Error.plain, Response.isEncodable, Json.isEncodable, hm, Bool.and_self]

end Rpc

namespace Session

open Server Rpc

variable {σ : Type}

/-- What is to come of a payload: a value within the limit, or a parse error that is answered, and after which the
session goes on as if nothing had been read. -/
def Settles (setup : Setup σ) (limit : Int) (raw : Text) : Prop :=
  (raw.length ≤ limit ∧ ∃ v, readPayload limit raw = .ok v) ∨
    ∃ e, readPayload limit raw = .error e ∧ e.isParseError ∧ ∀ s rest,
      answered setup limit s raw rest = ⟨[.emitted ⟨.null, .error ⟨-32700, e.message, .null⟩⟩], s, .ok rest⟩

section Payload

variable {setup : Setup σ} {limit : Int} {raw : Text} {e : Rejection}

theorem settles_of_isParseError (hd : setup.deliver = deliverFramed) (h : readPayload limit raw = .error e)
    (he : e.isParseError) : Settles setup limit raw := by
  refine .inr ⟨e, h, he, fun s rest => ?_⟩
  rw [answered, h]
  dsimp only
  rw [if_pos he, emit, hd, deliverFramed_eq_none.2 e.isEncodable_response]
  rfl

theorem not_settles (h : readPayload limit raw = .error e) (he : e.isParseError = false) :
    ¬ Settles setup limit raw := by
  rintro (⟨-, v, hv⟩ | ⟨e', h', he', -⟩)
  · rw [h] at hv
    cases hv
  · rw [← Except.error.inj (h.symm.trans h'), he] at he'
    cases he'

/-- What is no parse error ends the session. -/
theorem answered_of_not_isParseError (h : readPayload limit raw = .error e) (he : e.isParseError = false)
    (s : State σ) (rest : Bytes) : answered setup limit s raw rest = .stop s (.fault e.message) := by
  rw [answered, h]
  dsimp only
  rw [if_neg (by rw [he]; exact Bool.false_ne_true)]

theorem readPayload_of_lt (h : limit < raw.length) :
    readPayload limit raw = .error (if Integer.isShown limit then .tooLarge raw.length limit else .unshownLimit) :=
  if_pos h

theorem readPayload_of_le (h : raw.length ≤ limit) :
    readPayload limit raw = (Json.read raw).mapError .unreadable := by
  rw [readPayload, if_neg (by omega)]
  cases Json.read raw <;> rfl

end Payload

/-- Each payload is read, or refused with a parse error that is answered and leaves the session as it was, exactly if a
limit that is exceeded can be shown and no integer of too many digits stands where a value is due. -/
theorem settles_iff (c : Config) (platform : Text) (ask : σ → Store → Query → Answer × Store × σ)
    (launch : σ → List Text → Answer × σ) (tracing : Option (Tracing σ)) (clock : Nat → Binary64)
    (account : σ → Fault → Text) (limit : Int) (raw : Text) :
    Settles (Setup.ofConfig c platform ask launch tracing clock account) limit raw ↔
      (limit < raw.length → Integer.isShown limit) ∧ (raw.length ≤ limit → ¬ Json.MeetsLong raw) := by
  by_cases hlong : limit < raw.length
  · have hr := readPayload_of_lt hlong
    by_cases hs : Integer.isShown limit
    · rw [if_pos hs] at hr
      exact ⟨fun _ => ⟨fun _ => hs, fun h => by omega⟩, fun _ => settles_of_isParseError rfl hr rfl⟩
    · rw [if_neg hs] at hr
      exact ⟨fun h => (not_settles hr rfl h).elim, fun h => absurd (h.1 hlong) hs⟩
  · have hshort : raw.length ≤ limit := Int.not_lt.1 hlong
    have hr := readPayload_of_le hshort
    rw [← Json.exists_tooManyDigits_iff]
    cases hread : Json.read raw with
    | ok v =>
      rw [hread] at hr
      exact ⟨fun _ => ⟨fun h => by omega, fun _ ⟨_, hc⟩ => by cases hc⟩, fun _ => .inl ⟨hshort, v, hr⟩⟩
    | error e =>
      rw [hread] at hr
      cases e with
      | malformed problem place =>
        exact ⟨fun _ => ⟨fun h => by omega, fun _ ⟨_, hc⟩ => by cases hc⟩,
          fun _ => settles_of_isParseError rfl hr rfl⟩
      | tooManyDigits count =>
        exact ⟨fun h => (not_settles hr rfl h).elim, fun h => (h.2 hshort ⟨count, rfl⟩).elim⟩

/-- A payload of that many ones. -/
def repeatedOnes (n : Nat) : Text := List.replicate n (CodePoint.ofChar '1')

/-- One digit more than an integer may have ends a session. -/
theorem answered_repeatedOnes :
    (answered plainSetup 1048576 (.start ()) (repeatedOnes 4301) []).next = .error (.fault
        ("Exceeds the limit (4300 digits) for integer string conversion: value has " ++ Text.ofNat 4301 ++
          " digits; use sys.set_int_max_str_digits() to increase the limit")) ∧
      ¬ Settles plainSetup 1048576 (repeatedOnes 4301) := by
  have hread : (match readPayload 1048576 (repeatedOnes 4301) with
      | .error e => some e
      | .ok _ => none) = some (.unreadable (.tooManyDigits 4301)) := by
    decide +kernel
  have hr : readPayload 1048576 (repeatedOnes 4301) = .error (.unreadable (.tooManyDigits 4301)) := by
    split at hread
    · rename_i e he
      rw [he, Option.some.inj hread]
    · cases hread
  rw [answered_of_not_isParseError hr rfl]
  exact ⟨rfl, not_settles hr rfl⟩

end Session

end LspEndpoint
