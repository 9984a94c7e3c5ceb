import Mathlib.Data.List.TakeWhile
import LspEndpoint.Text.Pieces

/-!
What stands before the first of a character and what stands behind it, with the character between them, is the text.
-/
namespace LspEndpoint.Text

variable {separator : CodePoint} {t rest : Text}

theorem decide_ne_of_mem (h : separator ∉ t) (c : CodePoint) (hc : c ∈ t) : decide (c ≠ separator) = true :=
  decide_eq_true (ne_of_mem_of_not_mem hc h)

theorem before_append (h : separator ∉ t) : before separator (t ++ separator :: rest) = t := by
  rw [before, List.takeWhile_append_of_pos (decide_ne_of_mem h)]
  simp

theorem before_eq_self (h : separator ∉ t) : before separator t = t :=
  List.takeWhile_eq_self_iff.2 (decide_ne_of_mem h)

theorem after?_append (h : separator ∉ t) : after? separator (t ++ separator :: rest) = some rest := by
  rw [after?, List.dropWhile_append_of_pos (decide_ne_of_mem h)]
  simp

theorem eq_before_append (h : after? separator t = some rest) :
    t = before separator t ++ separator :: rest ∧ separator ∉ before separator t := by
  have hmem : separator ∈ t := Classical.byContradiction fun hn => by
    rw [after?, List.dropWhile_eq_nil_iff.2 (decide_ne_of_mem hn)] at h
    cases h
  obtain ⟨s, u, rfl, hs⟩ := List.eq_append_cons_of_mem hmem
  rw [after?_append hs] at h
  cases h
  rw [before_append hs]
  exact ⟨rfl, hs⟩

end LspEndpoint.Text
