import LspEndpoint.Proofs.Framing.Frame
import LspEndpoint.Proofs.Json.RoundTrip
import LspEndpoint.Rpc.Payload

/-!
Documents survive the way. A plain document that is written as a frame arrives as one body, and the body is
read as that document.
-/
namespace LspEndpoint.Framing

/-- A plain document can be written, and what is written is one frame whose body is read as that document
under every limit that admits it. Lengths are counted in 63 bits, which no document that there is exceeds. -/
theorem readAll_write {v : Json} (h : v.IsPlain)
    (hc : countable ((v.render false).flatMap CodePoint.utf8).length) :
    ∃ frame body, write v = .ok frame ∧ readAll frame = ([body], [], .ended) ∧
      ∀ limit : Int, body.length ≤ limit → Rpc.readPayload limit body = .ok v := by
  have hs := Json.isScalar_render h
  have hw : write v = .ok (frameOf ((v.render false).flatMap CodePoint.utf8)) := by
    rw [write, Text.utf8_of_isScalar hs]
  have hr : read (frameOf ((v.render false).flatMap CodePoint.utf8)) = ⟨[], .body (v.render false) []⟩ := by
    have hf := read_frameOf hc []
    rwa [List.append_nil, Bytes.decode_utf8 hs] at hf
  refine ⟨_, v.render false, hw, ?_, fun limit hl => ?_⟩
  · rw [readAll_of_body hr, readAll_nil]
    rfl
  · rw [Rpc.readPayload, if_neg (by omega), Json.read_render h]

/-- A list with nested and empty values. -/
def nestedItems : List Json := [.null, .bool true, .int (-120), .array [], .object []]

/-- A document with every kind of escape, a supplementary character and an integer beyond machine words. -/
def nestedDocument : Json :=
  .record [("", .array nestedItems),
    ("\"\\/\n\x01é😀", .record [("b", Json.string "\r\t\x7f\u2028"), ("a", .int 18446744073709551616)])]

theorem readAll_write_nestedDocument :
    nestedDocument.IsPlain ∧ ∃ frame body, write nestedDocument = .ok frame ∧
      readAll frame = ([body], [], .ended) ∧
        ∀ limit : Int, body.length ≤ limit → Rpc.readPayload limit body = .ok nestedDocument := by
  have hshown : Integer.isShown (-120) ∧ Integer.isShown 18446744073709551616 := by decide +kernel
  have hitems : (Json.array nestedItems).IsPlain := by
    refine .array ?_
    simp only [nestedItems, List.forall_mem_cons]
    exact ⟨.null, .bool true, .int hshown.1, .array (by simp), .object (by simp) (by simp) (by simp), by simp⟩
  have hinner : (Json.record [("b", Json.string "\r\t\x7f\u2028"), ("a", .int 18446744073709551616)]).IsPlain := by
    refine .object (by decide) (by decide) ?_
    simp only [List.map_cons, List.map_nil, List.forall_mem_cons]
    exact ⟨.text (by decide), .int hshown.2, by simp⟩
  have hplain : nestedDocument.IsPlain := by
    refine .object (by decide) (by decide) ?_
    simp only [List.map_cons, List.map_nil, List.forall_mem_cons]
    exact ⟨hitems, hinner, by simp⟩
  exact ⟨hplain, readAll_write hplain (by decide)⟩

end LspEndpoint.Framing
