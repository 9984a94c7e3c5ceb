import LspEndpoint.Trace.Event

/-!
Elision keeps the shape of a value and tells of its long texts no more than their lengths. So values that differ in long
texts only, each as long as its counterpart, leave the same line in a trace.
-/
namespace LspEndpoint

namespace Json

/-- Values of one shape: the same keys in the same order, lists of the same lengths, the same leaves that are no texts,
and related texts wherever there are texts. -/
inductive Alike (related : Text → Text → Prop) : Json → Json → Prop
  | null : Alike related .null .null
  | bool (b : Bool) : Alike related (.bool b) (.bool b)
  | int (n : Int) : Alike related (.int n) (.int n)
  | float (x : Binary64) : Alike related (.float x) (.float x)
  | text {t u : Text} (texts : related t u) : Alike related (.text t) (.text u)
  | array {items others : List Json} (length : items.length = others.length)
      (alike : ∀ p ∈ items.zip others, Alike related p.1 p.2) : Alike related (.array items) (.array others)
  | object {members others : List (Text × Json)} (keys : members.map Prod.fst = others.map Prod.fst)
      (alike : ∀ p ∈ members.zip others, Alike related p.1.2 p.2.2) :
      Alike related (.object members) (.object others)

/-- What stands for a text: the text itself, or its length if it is longer than the limit. -/
def IsCut (limit : Int) (t u : Text) : Prop :=
  ((t.length : Int) ≤ limit → u = t) ∧ (limit < t.length → u = "[" ++ Text.ofNat t.length ++ " chars]")

/-- Equal texts, or two texts of one length that is beyond the limit. -/
def IsMasked (limit : Int) (t u : Text) : Prop := t = u ∨ (limit < t.length ∧ t.length = u.length)

theorem isCut_elided (limit : Int) (t : Text) : IsCut limit t (t.elided limit) := by
  unfold Text.elided
  constructor
  · intro h
    rw [if_pos h]
  · intro h
    rw [if_neg (Int.not_le.2 h)]
    rfl

theorem elided_eq_of_isMasked {limit : Int} {t u : Text} (h : IsMasked limit t u) :
    t.elided limit = u.elided limit := by
  rcases h with rfl | ⟨hlong, hlength⟩
  · rfl
  · unfold Text.elided
    rw [← hlength]
    simp only [if_neg (Int.not_le.2 hlong)]

theorem map_eq_map_iff_zip {α β γ : Type} {f : α → γ} {g : β → γ} {as : List α} {bs : List β} :
    as.map f = bs.map g ↔ as.length = bs.length ∧ ∀ p ∈ as.zip bs, f p.1 = g p.2 := by
  induction as generalizing bs with
  | nil => cases bs <;> simp
  | cons a rest ih => cases bs <;> simp [ih, and_left_comm]

mutual

/-- Whatever the value is, what is shown of it has its shape, with every text as it is or cut to its length. -/
theorem alike_elided (limit : Int) : ∀ v : Json, v.Alike (IsCut limit) (v.elided limit)
  | .null => .null
  | .bool b => .bool b
  | .int n => .int n
  | .float x => .float x
  | .text t => .text (isCut_elided limit t)
  | .array items => by
    rw [elided, elidedItems_eq_map]
    refine .array (List.length_map _).symm fun p hp => ?_
    rw [← List.map_prod_left_eq_zip] at hp
    obtain ⟨v, hv, rfl⟩ := List.mem_map.1 hp
    exact alike_elided_item limit items v hv
  | .object members => by
    rw [elided, elidedMembers_eq_map]
    refine .object (by rw [List.map_map]; rfl) fun p hp => ?_
    rw [← List.map_prod_left_eq_zip] at hp
    obtain ⟨m, hm, rfl⟩ := List.mem_map.1 hp
    exact alike_elided_member limit members m hm

theorem alike_elided_item (limit : Int) : ∀ items : List Json, ∀ v ∈ items, v.Alike (IsCut limit) (v.elided limit)
  | [] => fun _ h => absurd h List.not_mem_nil
  | v :: rest => List.forall_mem_cons.2 ⟨alike_elided limit v, alike_elided_item limit rest⟩

theorem alike_elided_member (limit : Int) :
    ∀ members : List (Text × Json), ∀ m ∈ members, m.2.Alike (IsCut limit) (m.2.elided limit)
  | [] => fun _ h => absurd h List.not_mem_nil
  | (_, v) :: rest => List.forall_mem_cons.2 ⟨alike_elided limit v, alike_elided_member limit rest⟩

end

/-- Texts that are masked are cut to the same mark, wherever they stand. -/
theorem Alike.elided_eq {limit : Int} {v w : Json} (h : v.Alike (IsMasked limit) w) :
    v.elided limit = w.elided limit := by
  induction h with
  | null => rfl
  | bool b => rfl
  | int n => rfl
  | float x => rfl
  | text texts => exact congrArg Json.text (elided_eq_of_isMasked texts)
  | array length _ ih =>
    rw [elided, elided, elidedItems_eq_map, elidedItems_eq_map]
    exact congrArg Json.array (map_eq_map_iff_zip.2 ⟨length, ih⟩)
  | object keys _ ih =>
    obtain ⟨length, hkeys⟩ := map_eq_map_iff_zip.1 keys
    rw [elided, elided, elidedMembers_eq_map, elidedMembers_eq_map]
    refine congrArg Json.object (map_eq_map_iff_zip.2 ⟨length, fun p hp => ?_⟩)
    exact Prod.ext (hkeys p hp) (ih p hp)

end Json

namespace Trace

/-- What a trace shows of the params of a message: their shape, their short texts, and of each long text its length.
Nothing else about a long text shows in the line of a request or a notification. -/
theorem elision_masks (limit : Int) (v : Json) :
    v.Alike (Json.IsCut limit) (v.elided limit) ∧
      ∀ w, v.Alike (Json.IsMasked limit) w → ∀ time id method,
        (Event.request id method v).line limit time = (Event.request id method w).line limit time ∧
          (Event.notification method v).line limit time = (Event.notification method w).line limit time := by
  refine ⟨Json.alike_elided limit v, fun w hw time id method => ?_⟩
  have he : v.elided limit = w.elided limit := hw.elided_eq
  simp only [Event.line, Event.toJson, he, and_self]

/-- Params with a short text and, in a list below it, a secret of that length. -/
def guarded (secret : String) : Json :=
  .record [("uri", Json.string "u"), ("changes", .array [.null, .record [("text", Json.string secret)]])]

theorem alike_guarded {secret other : String} {limit : Int} (hlong : limit < (Text.ofString secret).length)
    (hlength : (Text.ofString secret).length = (Text.ofString other).length) :
    (guarded secret).Alike (Json.IsMasked limit) (guarded other) := by
  refine .object rfl (List.forall_mem_cons.2 ⟨.text (.inl rfl), List.forall_mem_singleton.2 (.array rfl ?_)⟩)
  refine List.forall_mem_cons.2 ⟨.null, List.forall_mem_singleton.2 (.object rfl ?_)⟩
  exact List.forall_mem_singleton.2 (.text (.inr ⟨hlong, hlength⟩))

theorem elision_masks_guarded :
    guarded "password" ≠ guarded "drowssap" ∧
      (guarded "password").Alike (Json.IsMasked 4) (guarded "drowssap") ∧
      ∀ time, (Event.request (.int 1) "m" (guarded "password")).line 4 time =
        (Event.request (.int 1) "m" (guarded "drowssap")).line 4 time := by
  have h : (guarded "password").Alike (Json.IsMasked 4) (guarded "drowssap") := alike_guarded (by decide) (by decide)
  exact ⟨by decide, h, fun time => ((elision_masks 4 (guarded "password")).2 _ h time (.int 1) "m").1⟩

end Trace

end LspEndpoint
