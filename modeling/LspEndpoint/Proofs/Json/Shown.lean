import LspEndpoint.Proofs.Json.Reading

/-!
What holds of everything that is read. A property of the words, the numbers and the texts that passes from items to
arrays and from members to objects holds of whatever the reader gives. One such property is that the integers are short
enough to be shown.
-/
namespace LspEndpoint.Json

/-- The property has hold of all that the reader puts together. -/
structure Holds (P : Json → Prop) : Prop where
  word : ∀ w ∈ words, P w.2
  number : ∀ {n : Numeral} {v : Json}, (∀ c ∈ n.whole, c.isDigit) → n.toJson = .ok v → P v
  text : ∀ t, P (.text t)
  array : ∀ {items : List Json}, (∀ v ∈ items, P v) → P (.array items)
  object : ∀ {members : Members}, (∀ m ∈ members, P m.2) → P (.object members)

/-- What reading with some fuel gives has the property, if what was read before has it. -/
structure Gives (P : Json → Prop) (fuel : Nat) : Prop where
  value : ∀ t v rest, readValue fuel t = .ok (v, rest) → P v
  items : ∀ before t v rest, (∀ w ∈ before, P w) → readItems fuel before t = .ok (v, rest) → P v
  members : ∀ before t v rest, (∀ m ∈ before, P m.2) → readMembers fuel before t = .ok (v, rest) → P v

section Step

variable {P : Json → Prop} (h : Holds P) {fuel : Nat} (ih : Gives P fuel) {t rest : Text} {v : Json}

include h ih

theorem readItems_gives {before : List Json} (hb : ∀ w ∈ before, P w)
    (hr : readItems (fuel + 1) before t = .ok (v, rest)) : P v := by
  rw [readItems] at hr
  split at hr
  · cases hr
  rename_i w r hw
  have hb' : ∀ u ∈ w :: before, P u := List.forall_mem_cons.2 ⟨ih.value _ _ _ hw, hb⟩
  split at hr
  · cases hr
  split at hr
  · cases hr
    exact h.array fun u hu => hb' u (List.mem_reverse.1 hu)
  split at hr
  · exact ih.items _ _ _ _ hb' hr
  · cases hr

theorem readMembers_gives {before : Members} (hb : ∀ m ∈ before, P m.2)
    (hr : readMembers (fuel + 1) before t = .ok (v, rest)) : P v := by
  cases t with
  | nil => cases hr
  | cons c t =>
    rw [readMembers] at hr
    split at hr
    · split at hr
      · cases hr
      split at hr
      · cases hr
      split at hr
      · split at hr
        · cases hr
        rename_i key _ _ _ _ _ _ _ _ w _ hw
        have hb' : ∀ m ∈ Entries.insert key w before, P m.2 := fun m hm =>
          (Entries.mem_insert hm).elim (fun e => e ▸ ih.value _ _ _ hw) (hb m)
        split at hr
        · cases hr
        split at hr
        · cases hr
          exact h.object hb'
        split at hr
        · exact ih.members _ _ _ _ hb' hr
        · cases hr
      · cases hr
    · cases hr

theorem readValue_gives (hr : readValue (fuel + 1) t = .ok (v, rest)) : P v := by
  cases t with
  | nil => cases hr
  | cons c t =>
    rw [readValue] at hr
    split at hr
    · split at hr
      · cases hr
      · cases hr
        exact h.text _
    split at hr
    · split at hr
      · cases hr
      · split at hr
        · cases hr
          exact h.object fun _ hm => absurd hm List.not_mem_nil
        · exact ih.members _ _ _ _ (fun _ hm => absurd hm List.not_mem_nil) hr
    split at hr
    · split at hr
      · cases hr
      · split at hr
        · cases hr
          exact h.array fun _ hv => absurd hv List.not_mem_nil
        · exact ih.items _ _ _ _ (fun _ hv => absurd hv List.not_mem_nil) hr
    split at hr
    · rename_i found hw
      cases hr
      obtain ⟨w, hm, he⟩ := List.exists_of_findSome?_eq_some hw
      obtain ⟨_, _, he⟩ := Option.map_eq_some_iff.1 he
      cases he
      exact h.word w hm
    · split at hr
      · cases hr
      rename_i n r hn
      split at hr
      · cases hr
      rename_i w hw
      cases hr
      exact h.number (numeral?_eq_some hn).1 hw

omit ih

theorem gives (fuel : Nat) : Gives P fuel := by
  induction fuel with
  | zero => exact ⟨fun _ _ _ hr => (by cases hr), fun _ _ _ _ _ hr => (by cases hr), fun _ _ _ _ _ hr => (by cases hr)⟩
  | succ fuel ih =>
    exact ⟨fun _ _ _ => readValue_gives h ih, fun _ _ _ _ hb => readItems_gives h ih hb,
      fun _ _ _ _ hb => readMembers_gives h ih hb⟩

/-- Whatever is read has the property. -/
theorem Holds.of_read (hr : read t = .ok v) : P v := by
  have hgo (hr : readAll.go t = .ok v) : P v := by
    rw [readAll.go] at hr
    split at hr
    · cases hr
    rename_i hw
    split at hr
    · cases hr
      exact (gives h _).value _ _ _ hw
    · cases hr
  unfold read at hr
  split at hr
  · rename_i hw
    cases hr
    unfold readAll at hw
    split at hw
    · split at hw
      · cases hw
      · exact hgo hw
    · exact hgo hw
  · cases hr

end Step

/-- The integers of the value are short enough to be shown. -/
inductive IsShown : Json → Prop
  | null : IsShown .null
  | bool (b : Bool) : IsShown (.bool b)
  | int {n : Int} (shown : Integer.isShown n) : IsShown (.int n)
  | float (x : Binary64) : IsShown (.float x)
  | text (t : Text) : IsShown (.text t)
  | array {items : List Json} (all : ∀ v ∈ items, IsShown v) : IsShown (.array items)
  | object {members : Members} (all : ∀ m ∈ members, IsShown m.2) : IsShown (.object members)

theorem IsDecoded.isShown {doubles : Bool} {v : Json} (h : IsDecoded doubles v) : v.IsShown := by
  induction h with
  | null => exact .null
  | bool b => exact .bool b
  | int shown => exact .int shown
  | float _ => exact .float _
  | text _ => exact .text _
  | array _ ih => exact .array ih
  | object _ _ _ ih => exact .object ih

/-- Whatever the text holds, its integers can be shown once it is read. -/
theorem isShown_of_read {t : Text} {v : Json} (hr : read t = .ok v) : v.IsShown := by
  have h : Holds IsShown :=
    { word := fun w hw => by
        simp only [words, List.mem_cons, List.not_mem_nil, or_false] at hw
        rcases hw with rfl | rfl | rfl | rfl | rfl | rfl
        · exact .null
        · exact .bool true
        · exact .bool false
        all_goals exact .float _
      number := fun hd hn => (toJson_isDecoded hd hn).isShown
      text := .text
      array := .array
      object := .object }
  exact h.of_read hr

end LspEndpoint.Json
