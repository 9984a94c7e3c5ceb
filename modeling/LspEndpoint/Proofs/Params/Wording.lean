import LspEndpoint.Backend.Basic
import LspEndpoint.Command.Execute
import LspEndpoint.Proofs.Json.Ascii

/-!
How refusals are worded. Whatever the params hold, what a decoder says about them is ASCII, for it shows them in that
form and names nothing else but the method and the part that it was looking at.
-/
namespace LspEndpoint

theorem Json.isPrintableAscii_describe (v : Json) : v.describe.isPrintableAscii := isPrintableAscii_render v.sorted

theorem RequestMethod.isPrintableAscii_method (m : RequestMethod) : (Text.ofString m.method).isPrintableAscii := by
  cases m with
  | document operation => cases operation <;> decide
  | _ => decide

namespace Params

theorem Part.isPrintableAscii_label (part : Part) : (Text.ofString part.label).isPrintableAscii := by
  cases part <;> decide

/-- The error is worded in ASCII. -/
def Error.IsLegible (e : Error) : Prop := e.message.isPrintableAscii

theorem isLegible_notObject {method : Text} (h : method.isPrintableAscii) (got : Json) :
    (Error.notObject method got).IsLegible := by
  have hw : Text.isPrintableAscii "invalid params for " ∧ Text.isPrintableAscii ": expected an object, got " := by
    decide
  simp only [Error.IsLegible, Error.message, Text.isPrintableAscii_append, hw, h, Json.isPrintableAscii_describe,
    Bool.and_self]

theorem isLegible_invalid (part : Part) (got : Json) : (Error.invalid part got).IsLegible := by
  have hw : Text.isPrintableAscii "invalid " ∧ Text.isPrintableAscii ": " := by decide
  simp only [Error.IsLegible, Error.message, Text.isPrintableAscii_append, hw, part.isPrintableAscii_label,
    Json.isPrintableAscii_describe, Bool.and_self]

theorem isLegible_notFileUri (uri : Text) : (Error.notFileUri uri).IsLegible := by
  have hw : Text.isPrintableAscii "expected a file URI, got " := by decide
  simp only [Error.IsLegible, Error.message, Text.isPrintableAscii_append, hw, Json.isPrintableAscii_describe,
    Bool.and_self]

/-- If params are refused, it is said in ASCII. -/
def Decoded.IsLegible {α : Type} (x : Decoded α) : Prop := ∀ e, x = .error e → e.IsLegible

section Decoders

variable {α β : Type} {method : Text}

theorem isLegible_ok (a : α) : Decoded.IsLegible (.ok a) := fun _ h => by cases h

theorem isLegible_require (part : Part) (got : Json) (found : Option α) : (require part got found).IsLegible := by
  cases found with
  | some a => exact isLegible_ok a
  | none =>
    rintro _ ⟨⟩
    exact isLegible_invalid part got

theorem isLegible_requireObject (h : method.isPrintableAscii) (v : Json) : (requireObject method v).IsLegible := by
  cases v with
  | object members => exact isLegible_ok ()
  | _ =>
    rintro _ ⟨⟩
    exact isLegible_notObject h _

theorem Decoded.IsLegible.bind {x : Decoded α} {f : α → Decoded β} (hx : x.IsLegible) (hf : ∀ a, (f a).IsLegible) :
    Decoded.IsLegible (x >>= f) := by
  cases x with
  | ok a => exact hf a
  | error e =>
    rintro _ ⟨⟩
    exact hx e rfl

theorem Decoded.IsLegible.map {x : Decoded α} (hx : x.IsLegible) (f : α → β) : Decoded.IsLegible (x.map f) := by
  cases x with
  | ok a => exact isLegible_ok (f a)
  | error e =>
    rintro _ ⟨⟩
    exact hx e rfl

theorem isLegible_position (v : Json) : (position v).IsLegible := isLegible_require _ _ _

theorem isLegible_textDocumentUri (v : Json) : (textDocumentUri v).IsLegible := isLegible_require _ _ _

theorem isLegible_formattingOptions (v : Json) : (formattingOptions v).IsLegible := isLegible_require _ _ _

theorem isLegible_range (v : Json) : (range v).IsLegible := by
  cases v with
  | object members =>
    exact (isLegible_position _).bind fun _ => (isLegible_position _).bind fun _ => isLegible_ok _
  | _ =>
    rintro _ ⟨⟩
    exact isLegible_invalid .range _

theorem isLegible_initialization (v : Json) : (initialization v).IsLegible :=
  (isLegible_requireObject (by decide) v).bind fun _ => (isLegible_require _ _ _).bind fun _ =>
    (isLegible_require _ _ _).bind fun _ => isLegible_ok _

theorem isLegible_executeCommand (v : Json) : (executeCommand v).IsLegible := isLegible_require _ _ _

end Decoders

/-- Every decoder looks for an object first, and then for the parts in turn. -/
theorem isLegible_decode (operation : Operation) (v : Json) : (Arguments.decode operation v).IsLegible := by
  have hobject := isLegible_requireObject (RequestMethod.isPrintableAscii_method (.document operation)) v
  have huri := isLegible_textDocumentUri v
  have hposition := isLegible_position (v.get "position")
  have hrange := isLegible_range (v.get "range")
  have hoptions := isLegible_formattingOptions (v.get "options")
  cases operation with
  | documentSymbol => exact (hobject.bind fun _ => huri.bind fun _ => isLegible_ok _).map _
  | codeLens => exact (hobject.bind fun _ => huri.bind fun _ => isLegible_ok _).map _
  | inlayHint => exact (hobject.bind fun _ => huri.bind fun _ => hrange.bind fun _ => isLegible_ok _).map _
  | references =>
    exact (hobject.bind fun _ => (isLegible_require _ _ _).bind fun _ => huri.bind fun _ => hposition.bind fun _ =>
      isLegible_ok _).map _
  | rename =>
    exact (hobject.bind fun _ => (isLegible_require _ _ _).bind fun _ => huri.bind fun _ => hposition.bind fun _ =>
      isLegible_ok _).map _
  | codeAction =>
    exact (hobject.bind fun _ => (isLegible_require _ _ _).bind fun _ => huri.bind fun _ => hrange.bind fun _ =>
      isLegible_ok _).map _
  | formatting => exact (hobject.bind fun _ => huri.bind fun _ => hoptions.bind fun _ => isLegible_ok _).map _
  | rangeFormatting =>
    exact (hobject.bind fun _ => huri.bind fun _ => hrange.bind fun _ => hoptions.bind fun _ => isLegible_ok _).map _
  | onTypeFormatting =>
    exact (hobject.bind fun _ => (isLegible_require _ _ _).bind fun _ => huri.bind fun _ => hposition.bind fun _ =>
      hoptions.bind fun _ => isLegible_ok _).map _
  | _ => exact (hobject.bind fun _ => huri.bind fun _ => hposition.bind fun _ => isLegible_ok _).map _

end Params

theorem Uri.eq_of_toPath_rejected {uri : Text} {e : Params.Error} (h : Uri.toPath uri = .error (.rejected e)) :
    e = .notFileUri uri := by
  unfold toPath at h
  repeat' split at h
  all_goals cases h
  rfl

/-- A command is refused in ASCII as well. -/
theorem Command.isLegible_path {params : Json} {e : Params.Error} (h : Command.path params = .error (.refused e)) :
    e.IsLegible := by
  unfold Command.path at h
  split at h
  · rename_i hx
    cases h
    exact Params.isLegible_executeCommand params e hx
  · split at h
    · rename_i e' hx
      cases e' with
      | malformed e' => cases h
      | rejected e' =>
        cases h
        exact Uri.eq_of_toPath_rejected hx ▸ Params.isLegible_notFileUri _
    · cases h

end LspEndpoint
