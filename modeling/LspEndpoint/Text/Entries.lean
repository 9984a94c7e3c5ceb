import LspEndpoint.Text.CodePoint

/-!
Values under text keys, in the order in which the keys were first put in. Putting a value under a key
that is there replaces it in its place.
-/
namespace LspEndpoint

abbrev Entries (α : Type) := List (Text × α)

namespace Entries

def insert (key : Text) (a : α) : Entries α → Entries α
  | [] => [(key, a)]
  | (k, b) :: rest => if k = key then (k, a) :: rest else (k, b) :: insert key a rest

def erase (key : Text) (entries : Entries α) : Entries α := entries.filter fun e => e.1 != key

theorem lookup_cons_ite (u v : Text) (a : α) (entries : Entries α) :
    List.lookup u ((v, a) :: entries) = if u = v then some a else entries.lookup u := by
  by_cases h : u = v
  · simp [h]
  · simp [List.lookup_cons, beq_eq_false_iff_ne.2 h, h]

theorem lookup_insert (key u : Text) (a : α) (entries : Entries α) :
    (insert key a entries).lookup u = if u = key then some a else entries.lookup u := by
  induction entries with
  | nil => exact lookup_cons_ite u key a []
  | cons e rest ih =>
    obtain ⟨v, b⟩ := e
    by_cases hv : v = key
    · subst hv
      simp only [insert, if_true, lookup_cons_ite]
      split <;> rfl
    · simp only [insert, if_neg hv, lookup_cons_ite, ih]
      by_cases h : u = v
      · simp [h, hv]
      · simp [h]

theorem keys_insert_of_mem {key : Text} {a : α} {entries : Entries α}
    (h : key ∈ entries.map Prod.fst) :
    (insert key a entries).map Prod.fst = entries.map Prod.fst := by
  induction entries with
  | nil => simp at h
  | cons e rest ih =>
    obtain ⟨k, b⟩ := e
    by_cases hk : k = key
    · simp [insert, hk]
    · simp only [List.map_cons, List.mem_cons, Ne.symm hk, false_or] at h
      simp [insert, hk, ih h]

theorem keys_insert_of_not_mem {key : Text} {a : α} {entries : Entries α}
    (h : key ∉ entries.map Prod.fst) :
    (insert key a entries).map Prod.fst = entries.map Prod.fst ++ [key] := by
  induction entries with
  | nil => rfl
  | cons e rest ih =>
    obtain ⟨k, b⟩ := e
    simp only [List.map_cons, List.mem_cons, not_or] at h
    simp [insert, Ne.symm h.1, ih h.2]

/-- A key that is new comes last. -/
theorem insert_of_not_mem {key : Text} {a : α} {entries : Entries α}
    (h : key ∉ entries.map Prod.fst) : insert key a entries = entries ++ [(key, a)] := by
  induction entries with
  | nil => rfl
  | cons e rest ih =>
    obtain ⟨k, b⟩ := e
    simp only [List.map_cons, List.mem_cons, not_or] at h
    rw [insert, if_neg (Ne.symm h.1), ih h.2, List.cons_append]

theorem mem_insert {key : Text} {a : α} {entries : Entries α} {e : Text × α} (h : e ∈ insert key a entries) :
    e = (key, a) ∨ e ∈ entries := by
  induction entries with
  | nil => exact .inl (List.mem_singleton.1 h)
  | cons d rest ih =>
    obtain ⟨k, b⟩ := d
    by_cases hk : k = key
    · rw [insert, if_pos hk, hk] at h
      exact (List.mem_cons.1 h).imp id (List.mem_cons_of_mem _)
    · rw [insert, if_neg hk] at h
      rcases List.mem_cons.1 h with rfl | h
      · exact .inr (List.mem_cons_self ..)
      · exact (ih h).imp id (List.mem_cons_of_mem _)

theorem lookup_erase (key u : Text) (entries : Entries α) :
    (erase key entries).lookup u = if u = key then none else entries.lookup u := by
  induction entries with
  | nil => simp [erase]
  | cons e rest ih =>
    obtain ⟨v, a⟩ := e
    simp only [erase] at ih ⊢
    by_cases hv : v = key
    · subst hv
      rw [List.filter_cons_of_neg (by simp), ih, lookup_cons_ite]
      split <;> rfl
    · rw [List.filter_cons_of_pos (by simp [hv]), lookup_cons_ite, lookup_cons_ite, ih]
      by_cases h : u = v
      · simp [h, hv]
      · simp [h]

end Entries

end LspEndpoint
