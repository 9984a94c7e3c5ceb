import LspEndpoint.Config.Environment
import LspEndpoint.Proofs.Text.Pieces

/-!
References to variables. Read from left to right, every text is made of references and of characters that start none.
It can be expanded exactly if all the names that it refers to have a native form.
-/
namespace LspEndpoint.Environment

/-- A name that can stand in a reference: it is not empty, and no brace closes it early. -/
def IsName (name : Text) : Prop := name ≠ [] ∧ CodePoint.ofChar '}' ∉ name

/-- The names that a text refers to, from left to right. What a reference takes up starts no other one. -/
inductive Refers : Text → List Text → Prop
  | done : Refers [] []
  | plain {c : CodePoint} {t : Text} {names : List Text} (h : ∀ name, IsName name → ¬ reference name <+: c :: t)
      (rest : Refers t names) : Refers (c :: t) names
  | reference {name t : Text} {names : List Text} (h : IsName name) (rest : Refers t names) :
      Refers (reference name ++ t) (name :: names)

variable {e : Environment} {name t : Text} {names : List Text}

theorem reference_append (name t : Text) :
    reference name ++ t =
      CodePoint.ofChar '$' :: CodePoint.ofChar '{' :: (name ++ CodePoint.ofChar '}' :: t) := by
  simp only [reference, List.append_assoc]
  rfl

theorem length_reference (name : Text) : (reference name).length = name.length + 3 := by
  have h := congrArg List.length (reference_append name [])
  simpa using h

/-- The name at the start of a text is that of the reference that stands there. -/
theorem name?_eq_some : name? t = some name ↔ IsName name ∧ reference name <+: t := by
  constructor
  · intro h
    unfold name? at h
    split at h
    · rename_i a b t
      split at h
      · rename_i hab
        split at h
        · rename_i c name' rest hbefore hafter
          obtain ⟨ht, hmem⟩ := Text.eq_before_append hafter
          obtain rfl := Option.some.inj h
          rw [hbefore] at ht hmem
          refine ⟨⟨List.cons_ne_nil _ _, hmem⟩, rest, ?_⟩
          rw [reference_append, ← ht, hab.1, hab.2]
        · cases h
      · cases h
    · cases h
  · rintro ⟨⟨hne, hmem⟩, rest, rfl⟩
    obtain ⟨c, name', rfl⟩ := List.exists_cons_of_ne_nil hne
    rw [reference_append, name?, if_pos ⟨rfl, rfl⟩, Text.before_append hmem, Text.after?_append hmem]

theorem expandFrom_drop (e : Environment) (skip : Nat) (t : Text) :
    e.expandFrom skip t = e.expandFrom 0 (t.drop skip) := by
  induction skip generalizing t with
  | zero => rw [List.drop_zero]
  | succ skip ih =>
    cases t with
    | nil => simp [expandFrom]
    | cons c t => rw [expandFrom, ih, List.drop_succ_cons]

/-- Every text refers to some names. -/
theorem exists_refers (t : Text) : ∃ names, Refers t names := by
  -- A reference takes up several characters at once, so the induction is on the length.
  induction h : t.length using Nat.strongRecOn generalizing t with
  | ind n ih =>
    cases t with
    | nil => exact ⟨[], .done⟩
    | cons c t =>
      by_cases hname : ∃ name, IsName name ∧ reference name <+: c :: t
      · obtain ⟨name, hn, rest, hrest⟩ := hname
        have hlen := congrArg List.length hrest
        rw [List.length_append, length_reference, h] at hlen
        obtain ⟨names, hnames⟩ := ih rest.length (by omega) rest rfl
        exact ⟨name :: names, hrest ▸ .reference hn hnames⟩
      · obtain ⟨names, hnames⟩ := ih t.length (by rw [← h]; exact Nat.lt_succ_self _) t rfl
        exact ⟨names, .plain (fun name hn hp => hname ⟨name, hn, hp⟩) hnames⟩

theorem expand_plain {c : CodePoint} (h : ∀ name, IsName name → ¬ reference name <+: c :: t) :
    e.expand (c :: t) = (e.expand t).map (c :: ·) := by
  have hn : name? (c :: t) = none :=
    Option.eq_none_iff_forall_ne_some.2 fun name hname => h name (name?_eq_some.1 hname).1 (name?_eq_some.1 hname).2
  rw [expand, expandFrom, hn]
  rfl

/-- A reference is expanded at once, and what it is replaced by is not looked into. -/
theorem expand_reference (h : IsName name) (t : Text) :
    e.expand (reference name ++ t) = match name.nonNative? with
      | some failure => .error failure
      | none => (e.expand t).map (e.resolve name ++ ·) := by
  have hn : name? (reference name ++ t) = some name := name?_eq_some.2 ⟨h, List.prefix_append ..⟩
  have hd : (CodePoint.ofChar '{' :: (name ++ CodePoint.ofChar '}' :: t)).drop (name.length + 2) = t := by
    rw [List.drop_succ_cons, List.drop_append]
    simp
  rw [expand]
  rw [reference_append] at hn ⊢
  rw [expandFrom, hn]
  dsimp only
  cases name.nonNative? with
  | some failure => rfl
  | none =>
    dsimp only
    rw [expandFrom_drop, hd, expand]

/-- A text can be expanded exactly if all the names that it refers to have a native form. -/
theorem expand_isOk_iff (h : Refers t names) : (∃ u, e.expand t = .ok u) ↔ ∀ name ∈ names, name.isNative := by
  induction h with
  | done => exact ⟨fun _ _ h => absurd h List.not_mem_nil, fun _ => ⟨[], rfl⟩⟩
  | plain hplain _ ih =>
    rw [← ih, expand_plain hplain]
    cases e.expand _ <;> simp [Except.map]
  | @reference name _ _ hname _ ih =>
    rw [List.forall_mem_cons, ← ih, expand_reference hname, ← Text.nonNative?_eq_none]
    cases name.nonNative? with
    | none => cases e.expand _ <;> simp [Except.map]
    | some failure => simp

end LspEndpoint.Environment
