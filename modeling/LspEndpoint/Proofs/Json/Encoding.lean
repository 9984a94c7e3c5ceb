import LspEndpoint.Proofs.Json.Ascii
import LspEndpoint.Proofs.Json.RoundTrip

/-!
What can be sent. The plain written form of a value has bytes exactly if no text of the value, as a value or as a key,
holds a surrogate, for all else that is written is ASCII.
-/
namespace LspEndpoint

theorem CodePoint.isScalar_of_isPrintableAscii {c : CodePoint} (h : c.isPrintableAscii) : c.isScalar := by
  simp only [isPrintableAscii, Bool.and_eq_true, decide_eq_true_eq] at h
  exact isScalar_of_lt (by omega)

theorem Text.isScalar_of_isPrintableAscii {t : Text} (h : t.isPrintableAscii) : t.isScalar :=
  List.all_eq_true.2 fun c hc => CodePoint.isScalar_of_isPrintableAscii (List.all_eq_true.1 h c hc)

namespace Json

mutual

/-- No text of the value holds a surrogate. -/
def isEncodable : Json → Bool
  | .text t => t.isScalar
  | .array items => areEncodable items
  | .object members => membersEncodable members
  | _ => true

def areEncodable : List Json → Bool
  | [] => true
  | v :: rest => isEncodable v && areEncodable rest

def membersEncodable : List (Text × Json) → Bool
  | [] => true
  | (k, v) :: rest => k.isScalar && isEncodable v && membersEncodable rest

end

section Rendering

/-- Escaping makes no surrogate and hides none. -/
theorem isScalar_escaped_eq (c : CodePoint) : Text.isScalar (escaped false c) = c.isScalar := by
  cases h : c.isScalar with
  | true => exact isScalar_escaped h
  | false =>
    have hs : 0xD800 ≤ c.val := by
      simp only [CodePoint.isScalar, CodePoint.isSurrogate, Bool.not_eq_false', Bool.and_eq_true,
        decide_eq_true_eq] at h
      exact h.1
    have hne {d : CodePoint} (hd : d.val < 0xD800) : c ≠ d := fun e => by rw [e] at hs; omega
    have hnone : shortEscape c = none := by
      unfold shortEscape
      rw [if_neg (hne (by decide)), if_neg (hne (by decide)), if_neg (hne (by decide)), if_neg (hne (by decide)),
        if_neg (hne (by decide)), if_neg (by omega), if_neg (by omega)]
    rw [escaped, hnone]
    dsimp only
    rw [if_neg (by omega), Bool.not_false, Bool.true_or, if_pos rfl, Text.isScalar, List.all_cons, h]
    rfl

theorem isScalar_renderText_eq (t : Text) : (renderText false t).isScalar = t.isScalar := by
  have hq : (CodePoint.ofChar '"').isScalar := by decide
  have ht : Text.isScalar (t.flatMap (escaped false)) = t.isScalar := by
    rw [Text.isScalar, List.all_flatMap]
    exact congrArg t.all (funext isScalar_escaped_eq)
  rw [Text.isScalar] at ht
  rw [renderText, Text.isScalar, List.all_cons, List.all_append, ht, hq]
  simp [hq]

mutual

/-- What is written for a value has bytes exactly if the value holds no surrogate. -/
theorem isScalar_render_eq : ∀ v, (render false v).isScalar = v.isEncodable
  | .null => by decide
  | .bool true => by decide
  | .bool false => by decide
  | .int n => isScalar_ofInt n
  | .float x => Text.isScalar_of_isPrintableAscii (isPrintableAscii_float x)
  | .text t => isScalar_renderText_eq t
  | .array items => by
    have hb : Text.isScalar "[" ∧ Text.isScalar "]" := by decide
    rw [render, Text.isScalar_append, Text.isScalar_append, hb.1, hb.2, isScalar_renderItems_eq items, isEncodable,
      Bool.true_and, Bool.and_true]
  | .object members => by
    have hb : Text.isScalar "\x7b" ∧ Text.isScalar "\x7d" := by decide
    rw [render, Text.isScalar_append, Text.isScalar_append, hb.1, hb.2, isScalar_renderMembers_eq members,
      isEncodable, Bool.true_and, Bool.and_true]

theorem isScalar_renderItems_eq : ∀ items, (renderItems false items).isScalar = areEncodable items
  | [] => rfl
  | [v] => by rw [renderItems, isScalar_render_eq v, areEncodable, areEncodable, Bool.and_true]
  | v :: w :: rest => by
    have hc : Text.isScalar ", " := by decide
    rw [renderItems, Text.isScalar_append, Text.isScalar_append, isScalar_render_eq v, hc,
      isScalar_renderItems_eq (w :: rest), Bool.and_true, ← areEncodable]

theorem isScalar_renderMembers_eq : ∀ members, (renderMembers false members).isScalar = membersEncodable members
  | [] => rfl
  | [(k, v)] => by
    have hc : Text.isScalar ": " := by decide
    rw [renderMembers, Text.isScalar_append, Text.isScalar_append, isScalar_renderText_eq, hc, isScalar_render_eq v,
      membersEncodable, membersEncodable, Bool.and_true, Bool.and_true]
  | (k, v) :: m :: rest => by
    have hc : Text.isScalar ": " ∧ Text.isScalar ", " := by decide
    rw [renderMembers, Text.isScalar_append, Text.isScalar_append, Text.isScalar_append, Text.isScalar_append,
      isScalar_renderText_eq, hc.1, hc.2, isScalar_render_eq v, isScalar_renderMembers_eq (m :: rest), Bool.and_true,
      Bool.and_true, ← membersEncodable]

end

end Rendering

end Json

end LspEndpoint
