import LspEndpoint.Proofs.Json.Decoded
import LspEndpoint.Trace.Event

/-!
Lines of a trace. An event is written as one line of printable ASCII, and the line is read as the event, but for the
duration, which is read as some double.
-/
namespace LspEndpoint

theorem Moment.isPrintableAscii_stamp (m : Moment) : m.stamp.isPrintableAscii := by
  have hp (width n : Nat) : (Text.padded width n).isPrintableAscii :=
    Text.isPrintableAscii_of_isDigit fun _ => Text.isDigit_of_mem_padded
  have hf : (fraction m.microsecond).isPrintableAscii := by
    unfold fraction
    split
    · rfl
    · rw [Text.isPrintableAscii_append, hp]
      decide
  have hs : Text.isPrintableAscii "-" ∧ Text.isPrintableAscii "T" ∧ Text.isPrintableAscii ":" ∧
      Text.isPrintableAscii "Z" := by
    decide
  simp [stamp, Date.text, timeText, hp, hf, hs]

namespace Json

/-- The value itself, or that double in place of another. -/
def withDouble (y : Binary64) : Json → Json
  | .float _ => .float y
  | v => v

theorem IsDecoded.withDouble {v : Json} (h : IsDecoded false v) (y : Binary64) : v.withDouble y = v := by
  cases h with
  | float allowed => cases allowed
  | _ => rfl

/-- An object is read back, but for the double, if there is one among its values. -/
theorem survives_record (keys : List String) (members : List (String × Json)) {x : Binary64}
    (hm : members.map Prod.fst = keys) (hk : keys.Nodup) (hu : ∀ k ∈ keys, (Text.ofString k).isUnsplit)
    (hv : ∀ m ∈ members, m.2.IsDecoded false ∨ m.2 = .float x) :
    ∃ y, Survives true (.record members) (.record (members.map fun m => (m.1, m.2.withDouble y))) := by
  obtain ⟨y, hy⟩ : ∃ y, Survives true (.float x) (.float y) := survives_float x
  have ho : Survives true (.record members)
      (.object ((members.map fun m => (Text.ofString m.1, m.2)).map fun m => (m.1, m.2.withDouble y))) := by
    refine survives_object (fun m h => ?_) (fun m h _ => ?_) ?_
    · obtain ⟨n, hn, rfl⟩ := List.mem_map.1 h
      rcases hv n hn with hr | hf
      · rw [hr.withDouble]
        exact hr.survives
      · simp only [hf, withDouble]
        exact hy
    · obtain ⟨n, hn, rfl⟩ := List.mem_map.1 h
      exact hu n.1 (hm ▸ List.mem_map_of_mem hn)
    · have hmap : (members.map fun m => (Text.ofString m.1, m.2)).map Prod.fst = keys.map Text.ofString := by
        rw [← hm, List.map_map, List.map_map]
        rfl
      rw [hmap]
      exact List.Pairwise.map Text.ofString (fun _ _ h e => h (Text.ofString_injective e)) hk
  exact ⟨y, by simpa only [record, List.map_map, Function.comp_def] using ho⟩

end Json

namespace Trace.Event

/-- The event with another duration, if it has one. -/
def lasting (y : Binary64) : Event → Event
  | .response id status _ => .response id status (.float y)
  | e => e

/-- An event that its line gives back but for its duration. -/
def IsRecordable : Event → Prop
  | .request id method params => id.IsDecoded false ∧ method.isUnsplit ∧ params.IsDecoded false
  | .response id status duration => id.IsDecoded false ∧ status.isUnsplit ∧ ∃ x, duration = .float x
  | .notification method params => method.isUnsplit ∧ params.IsDecoded false

variable (limit : Int) (time : Moment)

/-- An event is read back from its line, but for its duration. -/
theorem survives {e : Event} (h : e.IsRecordable) :
    ∃ y, Json.Survives true (e.toJson limit time) ((e.lasting y).toJson limit time) := by
  have ht {t : Text} (h : t.isUnsplit) : (Json.text t).IsDecoded false := .text h
  have hw (word : String) (h : (Text.ofString word).isUnsplit) : (Json.string word).IsDecoded false := .text h
  have hstamp := Text.isUnsplit_of_isPrintableAscii time.isPrintableAscii_stamp
  cases e with
  | request id method params =>
    obtain ⟨hi, hm, hp⟩ := h
    obtain ⟨y, hy⟩ := Json.survives_record (x := .nan) ["type", "timestamp", "request_id", "method", "params"]
      [("type", Json.string "request"), ("timestamp", .text time.stamp), ("request_id", id),
        ("method", .text method), ("params", params.elided limit)]
      rfl (by decide) (by decide)
      (by simp [hw "request" (by decide), ht hstamp, hi, ht hm, hp.elided limit])
    simp only [List.map_cons, List.map_nil, hi.withDouble, (hp.elided limit).withDouble] at hy
    exact ⟨y, hy⟩
  | response id status duration =>
    obtain ⟨hi, hs, x, rfl⟩ := h
    obtain ⟨y, hy⟩ := Json.survives_record (x := x)
      ["type", "timestamp", "request_id", "result_status", "execution_time_ms"]
      [("type", Json.string "response"), ("timestamp", .text time.stamp), ("request_id", id),
        ("result_status", .text status), ("execution_time_ms", .float x)]
      rfl (by decide) (by decide)
      (by simp [hw "response" (by decide), ht hstamp, hi, ht hs])
    simp only [List.map_cons, List.map_nil, hi.withDouble] at hy
    exact ⟨y, hy⟩
  | notification method params =>
    obtain ⟨hm, hp⟩ := h
    obtain ⟨y, hy⟩ := Json.survives_record (x := .nan) ["type", "timestamp", "method", "params"]
      [("type", Json.string "notification"), ("timestamp", .text time.stamp), ("method", .text method),
        ("params", params.elided limit)]
      rfl (by decide) (by decide)
      (by simp [hw "notification" (by decide), ht hstamp, ht hm, hp.elided limit])
    simp only [List.map_cons, List.map_nil, (hp.elided limit).withDouble] at hy
    exact ⟨y, hy⟩

end Trace.Event

end LspEndpoint
