import LspEndpoint.Proofs.Json.Ascii
import LspEndpoint.Trace.Elision

/-!
Values that come from texts. Their integers are short enough to be shown, no text of theirs holds the halves of a
surrogate pair one after the other, and no key stands twice in an object. One that has no doubles is read back from its
written form in ASCII.
-/
namespace LspEndpoint

namespace Json

/-- A value as reading gives them, with doubles or without. -/
inductive IsDecoded (doubles : Bool) : Json → Prop
  | null : IsDecoded doubles .null
  | bool (b : Bool) : IsDecoded doubles (.bool b)
  | int {n : Int} (shown : Integer.isShown n) : IsDecoded doubles (.int n)
  | float {x : Binary64} (allowed : doubles) : IsDecoded doubles (.float x)
  | text {t : Text} (unsplit : t.isUnsplit) : IsDecoded doubles (.text t)
  | array {items : List Json} (decoded : ∀ v ∈ items, IsDecoded doubles v) : IsDecoded doubles (.array items)
  | object {members : Members} (distinct : (members.map Prod.fst).Nodup)
      (unsplit : ∀ m ∈ members, m.1.isUnsplit) (decoded : ∀ m ∈ members, IsDecoded doubles m.2) :
      IsDecoded doubles (.object members)

mutual

def hasDouble : Json → Bool
  | .float _ => true
  | .array items => hasDoubleItems items
  | .object members => hasDoubleMembers members
  | _ => false

def hasDoubleItems : List Json → Bool
  | [] => false
  | v :: rest => hasDouble v || hasDoubleItems rest

def hasDoubleMembers : List (Text × Json) → Bool
  | [] => false
  | (_, v) :: rest => hasDouble v || hasDoubleMembers rest

end

theorem hasDoubleItems_eq_any (items : List Json) : hasDoubleItems items = items.any hasDouble := by
  induction items with
  | nil => rfl
  | cons v rest ih => simp [hasDoubleItems, ih]

theorem hasDoubleMembers_eq_any (members : List (Text × Json)) :
    hasDoubleMembers members = members.any fun m => hasDouble m.2 := by
  induction members with
  | nil => rfl
  | cons m rest ih => simp [hasDoubleMembers, ih]

namespace IsDecoded

variable {doubles : Bool} {v : Json}

theorem without_doubles (h : IsDecoded doubles v) (hf : v.hasDouble = false) : IsDecoded false v := by
  induction h with
  | null => exact .null
  | bool b => exact .bool b
  | int shown => exact .int shown
  | float allowed => cases hf
  | text unsplit => exact .text unsplit
  | array _ ih =>
    rw [hasDouble, hasDoubleItems_eq_any, List.any_eq_false] at hf
    exact .array fun v hv => ih v hv (Bool.eq_false_iff.2 (hf v hv))
  | object distinct unsplit _ ih =>
    rw [hasDouble, hasDoubleMembers_eq_any, List.any_eq_false] at hf
    exact .object distinct unsplit fun m hm => ih m hm (Bool.eq_false_iff.2 (hf m hm))

theorem survives (h : IsDecoded false v) : Survives true v v := by
  induction h with
  | null => exact survives_null
  | bool b => exact survives_bool b
  | int shown => exact survives_int shown
  | float allowed => cases allowed
  | text unsplit => exact survives_text fun _ => unsplit
  | array _ ih => simpa only [List.map_id'] using survives_array (f := fun v => v) ih
  | object distinct unsplit _ ih =>
    simpa only [List.map_id'] using survives_object (f := fun v => v) ih (fun m hm _ => unsplit m hm) distinct

/-- Params stay readable when their long texts are elided. -/
theorem elided (h : IsDecoded doubles v) (limit : Int) : IsDecoded doubles (v.elided limit) := by
  induction h with
  | null => exact .null
  | bool b => exact .bool b
  | int shown => exact .int shown
  | float allowed => exact .float allowed
  | text unsplit =>
    refine .text ?_
    unfold Text.elided
    split
    · exact unsplit
    · have hb : Text.isPrintableAscii "[" ∧ Text.isPrintableAscii " chars]" := by decide
      refine Text.isUnsplit_of_isPrintableAscii ?_
      rw [lengthMark, Text.isPrintableAscii_append, Text.isPrintableAscii_append, hb.1, hb.2,
        Text.isPrintableAscii_of_isDigit fun _ => Text.isDigit_of_mem_ofNat]
      rfl
  | array _ ih =>
    rw [Json.elided, elidedItems_eq_map]
    refine .array fun v hv => ?_
    obtain ⟨w, hw, rfl⟩ := List.mem_map.1 hv
    exact ih w hw
  | object distinct unsplit _ ih =>
    rw [Json.elided, elidedMembers_eq_map]
    refine .object ?_ (fun m hm => ?_) fun m hm => ?_
    · simpa only [List.map_map, Function.comp_def] using distinct
    · obtain ⟨n, hn, rfl⟩ := List.mem_map.1 hm
      exact unsplit n hn
    · obtain ⟨n, hn, rfl⟩ := List.mem_map.1 hm
      exact ih n hn

/-- What stands under a key of a value. -/
theorem get? (h : IsDecoded doubles v) {key : Text} {w : Json} (hw : v.get? key = some w) : IsDecoded doubles w := by
  cases h with
  | object _ _ decoded =>
    obtain ⟨before, after, he, -⟩ := List.lookup_eq_some_iff.1 hw
    exact decoded (key, w) (by simp [he])
  | _ => cases hw

end IsDecoded

end Json

end LspEndpoint
