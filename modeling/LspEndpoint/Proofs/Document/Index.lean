import LspEndpoint.Document.Edit
import LspEndpoint.Proofs.Text.Lines

/-!
The index of a position as a total function. A search for a position gives this index or fails, and it
fails exactly at a lone surrogate that stands in the line of the position before its character.
-/
namespace LspEndpoint.Text

/-- How many code points begin before the given number of code units. -/
def reach : (units : Nat) → Text → Nat
  | _, [] => 0
  | 0, _ :: _ => 0
  | units + 1, c :: t => reach (units + 1 - c.units) t + 1

@[simp] theorem reach_nil (units : Nat) : reach units [] = 0 := by
  cases units <;> rfl

@[simp] theorem reach_zero (t : Text) : reach 0 t = 0 := by
  cases t <;> rfl

/-- Behind a code point its units are no longer counted. -/
theorem reach_add_units (c : CodePoint) (units : Nat) (t : Text) :
    reach (c.units + units) (c :: t) = reach units t + 1 := by
  obtain ⟨n, hn⟩ : ∃ n, c.units + units = n + 1 := ⟨c.units + units - 1, by have := c.units_pos; omega⟩
  rw [hn, reach, ← hn, Nat.add_sub_cancel_left]

theorem reach_cons_le (units : Nat) (c : CodePoint) (t : Text) :
    reach units (c :: t) ≤ reach (units - c.units) t + 1 := by
  cases units with
  | zero => simp
  | succ units => exact Nat.le_refl _

theorem reach_le_length (units : Nat) (t : Text) : reach units t ≤ t.length := by
  induction t generalizing units with
  | nil => simp
  | cons c t ih =>
    cases units with
    | zero => simp
    | succ units =>
      have h := ih (units + 1 - c.units)
      simp only [reach, List.length_cons]
      omega

/-- A lone surrogate begins before the given number of code units. -/
def IsObstructed (units : Nat) (t : Text) : Prop :=
  ∃ before c after, t = before ++ c :: after ∧ c.isSurrogate ∧ Text.units before < units

theorem not_isObstructed_nil (units : Nat) : ¬ IsObstructed units [] := by
  rintro ⟨before, c, after, h, -⟩
  simp at h

theorem not_isObstructed_zero (t : Text) : ¬ IsObstructed 0 t := by
  rintro ⟨before, c, after, -, -, h⟩
  exact Nat.not_lt_zero _ h

theorem isObstructed_succ_cons (units : Nat) (c : CodePoint) (t : Text) :
    IsObstructed (units + 1) (c :: t) ↔ c.isSurrogate ∨ IsObstructed (units + 1 - c.units) t := by
  constructor
  · rintro ⟨before, d, after, ht, hd, hu⟩
    cases before with
    | nil =>
      obtain ⟨rfl, -⟩ := List.cons.inj ht
      exact .inl hd
    | cons b before =>
      obtain ⟨rfl, rfl⟩ := List.cons.inj ht
      refine .inr ⟨before, d, after, rfl, hd, ?_⟩
      simp only [units_cons] at hu
      omega
  · rintro (hc | ⟨before, d, after, rfl, hd, hu⟩)
    · exact ⟨[], c, t, rfl, hc, Nat.succ_pos units⟩
    · refine ⟨c :: before, d, after, rfl, hd, ?_⟩
      simp only [units_cons]
      omega

theorem column_of_not_isObstructed {passed units : Nat} {t : Text} (h : ¬ IsObstructed units t) :
    column passed units t = .ok (passed + reach units t) := by
  induction t generalizing passed units with
  | nil => simp [column]
  | cons c t ih =>
    cases units with
    | zero => simp [column]
    | succ units =>
      rw [isObstructed_succ_cons, not_or] at h
      simp only [column, reach, if_neg h.1, ih h.2]
      congr 1
      omega

theorem column_of_isObstructed (passed : Nat) {units : Nat} {t : Text} (h : IsObstructed units t) :
    ∃ e, column passed units t = .error e := by
  induction t generalizing passed units with
  | nil => exact absurd h (not_isObstructed_nil _)
  | cons c t ih =>
    cases units with
    | zero => exact absurd h (not_isObstructed_zero _)
    | succ units =>
      simp only [column]
      by_cases hc : c.isSurrogate
      · exact ⟨_, if_pos hc⟩
      · rw [if_neg hc]
        exact ih _ (((isObstructed_succ_cons units c t).1 h).resolve_left hc)

/-- The index that a position stands for. -/
def index (t : Text) (p : Position) : Nat :=
  t.length - (t.dropLines p.line).length + reach p.character (t.dropLines p.line).addressable

/-- A lone surrogate stands in the line of a position before its character. -/
def Hides (t : Text) (p : Position) : Prop :=
  IsObstructed p.character (t.dropLines p.line).addressable

theorem offsetAt_of_not_hides {t : Text} {p : Position} (h : ¬ t.Hides p) :
    t.offsetAt p = .ok (t.index p) := by
  simp [offsetAt, index, column_of_not_isObstructed h]

theorem offsetAt_of_hides {t : Text} {p : Position} (h : t.Hides p) :
    ∃ e, t.offsetAt p = .error e := by
  obtain ⟨e, he⟩ := column_of_isObstructed 0 h
  exact ⟨e, by simp [offsetAt, he]⟩

theorem addressable_sublist (t : Text) : t.addressable.Sublist t := by
  induction t with
  | nil => exact .slnil
  | cons c t ih =>
    rw [addressable_cons]
    split
    · exact List.nil_sublist _
    · split
      · exact List.cons_sublist_cons.2 (List.nil_sublist t)
      · exact List.cons_sublist_cons.2 ih

theorem dropLine_sublist (t : Text) : t.dropLine.Sublist t := by
  conv => rhs; rw [← firstLine_append_dropLine t]
  exact List.sublist_append_right _ _

theorem dropLines_sublist (n : Nat) (t : Text) : (t.dropLines n).Sublist t := by
  induction n generalizing t with
  | zero => simp
  | succ n ih =>
    rw [dropLines_succ]
    exact (ih t.dropLine).trans (dropLine_sublist t)

/-- Nothing is hidden in a text without lone surrogates. -/
theorem not_hides_of_isScalar {t : Text} (h : t.isScalar) (p : Position) : ¬ t.Hides p := by
  rintro ⟨before, c, after, hl, hc, -⟩
  have hs := ((addressable_sublist _).trans (dropLines_sublist p.line t)).subset
    (hl ▸ List.mem_append_right before (List.mem_cons_self ..))
  have hn := List.all_eq_true.1 h c hs
  simp [CodePoint.isScalar, hc] at hn

theorem applyChange_of_isScalar {t : Text} (h : t.isScalar) (s : Text) (r : Range) :
    t.applyChange ⟨s, some r⟩ =
      .ok (t.splice (t.index r.start) (max (t.index r.start) (t.index r.stop)) s) := by
  simp only [applyChange, offsetAt_of_not_hides (not_hides_of_isScalar h _)]

/-! ### The index, one code point at a time -/

@[simp] theorem index_nil (p : Position) : index [] p = 0 := by
  simp [index, addressable_nil]

theorem index_zero (t : Text) (character : Nat) :
    t.index ⟨0, character⟩ = reach character t.addressable := by
  simp [index]

@[simp] theorem index_start (t : Text) : t.index ⟨0, 0⟩ = 0 := by
  simp [index_zero]

/-- A code point that ends a line break takes a line off the position, any other leaves it. -/
theorem index_cons_succ (c : CodePoint) (t : Text) (line character : Nat) :
    index (c :: t) ⟨line + 1, character⟩ =
      t.index ⟨if c.endsBreak t then line else line + 1, character⟩ + 1 := by
  have hd : dropLines (line + 1) (c :: t) =
      t.dropLines (if c.endsBreak t then line else line + 1) := by
    rw [dropLines_succ, dropLine_cons]
    split
    · rfl
    · rw [dropLines_succ]
  have hl := length_dropLines_le (if c.endsBreak t then line else line + 1) t
  simp only [index, hd, List.length_cons]
  omega

end LspEndpoint.Text
