import LspEndpoint.Proofs.Json.Grammar

/-!
The reader takes what the grammar derives. A value of the grammar is read up to its end, whatever follows, unless the
reader stops at an integer of too many digits inside it.
-/
namespace LspEndpoint.Json

/-- Whatever doubles a value has, they are of this kind. -/
inductive AllDoubles (p : Binary64 → Prop) : Json → Prop
  | null : AllDoubles p .null
  | bool (b : Bool) : AllDoubles p (.bool b)
  | int (n : Int) : AllDoubles p (.int n)
  | float {x : Binary64} (kind : p x) : AllDoubles p (.float x)
  | text (t : Text) : AllDoubles p (.text t)
  | array {items : List Json} (all : ∀ v ∈ items, AllDoubles p v) : AllDoubles p (.array items)
  | object {members : Members} (all : ∀ m ∈ members, AllDoubles p m.2) : AllDoubles p (.object members)

/-- The value is none that only a word of the reader's own names. -/
abbrev IsNumeric (v : Json) : Prop := AllDoubles (· ≠ .nan) v

/-- What reading a value comes to: the value, or the number of digits at which it stops. -/
abbrev Verdict := Except Nat Json

namespace Verdict

def reading (verdict : Verdict) (rest : Text) : Reading Json :=
  match verdict with
  | .ok v => .ok (v, rest)
  | .error count => .error (.tooManyDigits count)

/-- A value of the standard grammar is numeric. -/
def IsSound (lax : Bool) (verdict : Verdict) : Prop := lax = false → ∀ v, verdict = .ok v → v.IsNumeric

theorem isSound_error (lax : Bool) (count : Nat) : IsSound lax (.error count) := fun _ _ h => by cases h

theorem isSound_ok {lax : Bool} {v : Json} (h : lax = false → v.IsNumeric) : IsSound lax (.ok v) := by
  rintro hl _ ⟨⟩
  exact h hl

end Verdict

section Derived

variable {lax : Bool} {t : Text}

/-- A text that spaces do not run into and that closes no list. -/
def Starts (t : Text) : Prop :=
  ∃ c u, t = c :: u ∧ isSpace c = false ∧ c ≠ CodePoint.ofChar ']' ∧ c ≠ CodePoint.ofChar '}' ∧ c.val ≠ 0xFEFF

/-- A value is read to its end. -/
structure ReadsValue (lax : Bool) (t : Text) : Prop where
  starts : Starts t
  reads : ∃ verdict : Verdict, verdict.IsSound lax ∧ ∀ fuel rest, t.length ≤ fuel → EndsNumber rest →
    readValue fuel (t ++ rest) = verdict.reading rest

/-- Items are read up to the closing bracket behind them. -/
structure ReadsItems (lax : Bool) (t : Text) : Prop where
  starts : Starts t
  reads : ∀ before : List Json, (lax = false → ∀ v ∈ before, v.IsNumeric) →
    ∃ verdict : Verdict, verdict.IsSound lax ∧ ∀ fuel rest, t.length < fuel →
      readItems fuel before (t ++ CodePoint.ofChar ']' :: rest) = verdict.reading rest

/-- Members are read up to the closing brace behind them. -/
structure ReadsMembers (lax : Bool) (t : Text) : Prop where
  starts : Starts t
  reads : ∀ before : Members, (lax = false → ∀ m ∈ before, m.2.IsNumeric) →
    ∃ verdict : Verdict, verdict.IsSound lax ∧ ∀ fuel rest, t.length < fuel →
      readMembers fuel before (t ++ CodePoint.ofChar '}' :: rest) = verdict.reading rest

theorem Starts.skipSpace (h : Starts t) {s : Text} (hs : IsSpaces s) (rest : Text) :
    Json.skipSpace (s ++ (t ++ rest)) = t ++ rest := by
  obtain ⟨c, u, rfl, hc, -⟩ := h
  exact hs.skipSpace hc _

theorem Starts.append (h : Starts t) (rest : Text) : Starts (t ++ rest) := by
  obtain ⟨c, u, rfl, hc⟩ := h
  exact ⟨c, u ++ rest, rfl, hc⟩

theorem exists_fuel {n fuel : Nat} (h : n < fuel) : ∃ k, fuel = k + 1 := ⟨fuel - 1, by omega⟩

/-- A word is read as what it stands for. -/
theorem readsValue_word {w : String} {v : Json} (hw : (w, v) ∈ words) (hv : lax = false → v.IsNumeric) :
    ReadsValue lax w := by
  have hs : ∀ w ∈ words, ∃ c ∈ (Text.ofString w.1).head?, isSpace c = false ∧ c ≠ CodePoint.ofChar ']' ∧
      c ≠ CodePoint.ofChar '}' ∧ c.val ≠ 0xFEFF := by
    decide
  obtain ⟨c, hc, hstarts⟩ := hs _ hw
  refine ⟨?_, .ok v, Verdict.isSound_ok hv, fun fuel rest hf _ => ?_⟩
  · obtain ⟨u, hu⟩ := List.head?_eq_some_iff.1 hc
    exact ⟨c, u, hu, hstarts⟩
  · simp only [words, List.mem_cons, Prod.mk.injEq, List.not_mem_nil, or_false] at hw
    rcases hw with ⟨rfl, rfl⟩ | ⟨rfl, rfl⟩ | ⟨rfl, rfl⟩ | ⟨rfl, rfl⟩ | ⟨rfl, rfl⟩ | ⟨rfl, rfl⟩
    all_goals
      cases fuel with
      | zero => exact absurd hf (by decide)
      | succ fuel => rfl

theorem ofDecimal_ne_nan (negative : Bool) (digits : Nat) (exponent : Int) :
    Binary64.ofDecimal negative digits exponent ≠ .nan := by
  have hr (rank : Nat) : Binary64.ofRank negative rank ≠ .nan := by
    unfold Binary64.ofRank
    intro h
    split at h <;> cases h
  intro h
  unfold Binary64.ofDecimal at h
  repeat' split at h
  all_goals first | exact hr _ h | cases h

/-- An integer of too many digits. -/
structure Numeral.IsLong (n : Numeral) : Prop where
  fraction : n.fraction = []
  exponent : n.exponent = none
  digits : maxIntegerDigits < n.whole.length

/-- A number has a value, unless it is an integer of too many digits. -/
theorem Numeral.toJson_cases (n : Numeral) :
    (∃ v, n.toJson = .ok v ∧ v.IsNumeric) ∨ n.IsLong ∧ n.toJson = .error (.tooManyDigits n.whole.length) := by
  unfold toJson
  split
  · rename_i hf he
    split
    · rename_i hd
      exact .inr ⟨⟨hf, he, hd⟩, rfl⟩
    · exact .inl ⟨_, rfl, .int _⟩
  · exact .inl ⟨_, rfl, .float (ofDecimal_ne_nan _ _ _)⟩

/-- Where a number comes first, it is scanned. -/
theorem readValue_number {n : Numeral} {rest : Text} (h : IsNumber t) (hn : numeral? (t ++ rest) = some (n, rest))
    (fuel : Nat) : readValue (fuel + 1) (t ++ rest) = n.toJson.map (·, rest) := by
  obtain ⟨c, u, hc, ht⟩ := h.head
  have hd {d : CodePoint} (h : d.val < 0x30 ∨ 0x39 < d.val) : c ≠ d := CodePoint.ne_of_isDigit hc h
  have hm {d : CodePoint} (h : d.val ≠ 0x2D) : CodePoint.ofChar '-' ≠ d := fun e => h (e ▸ rfl)
  rcases ht with rfl | rfl
  · rw [List.cons_append] at hn ⊢
    rw [readValue, if_neg (hd (by decide)), if_neg (hd (by decide)), if_neg (hd (by decide)),
      readWord?_of_isDigit hc, hn]
    dsimp only
    cases n.toJson <;> rfl
  · rw [List.cons_append, List.cons_append] at hn ⊢
    rw [readValue, if_neg (hm (by decide)), if_neg (hm (by decide)), if_neg (hm (by decide)),
      readWord?_of_minus hc, hn]
    dsimp only
    cases n.toJson <;> rfl

theorem IsNumber.starts (h : IsNumber t) : Starts t := by
  obtain ⟨c, u, hc, rfl | rfl⟩ := h.head
  · have hb := hc
    simp only [CodePoint.isDigit, Bool.and_eq_true, decide_eq_true_eq] at hb
    refine ⟨c, u, rfl, ?_, CodePoint.ne_of_isDigit hc (by decide), CodePoint.ne_of_isDigit hc (by decide), by omega⟩
    simp only [isSpace, Bool.or_eq_false_iff, beq_eq_false_iff_ne]
    omega
  · exact ⟨_, _, rfl, by decide, by decide, by decide, by decide⟩

theorem readsValue_number (h : IsNumber t) : ReadsValue lax t := by
  obtain ⟨n, hn⟩ := h.numeral?
  obtain ⟨c, u, hcu, -⟩ := h.starts
  have hlen {fuel : Nat} (hf : t.length ≤ fuel) : ∃ k, fuel = k + 1 := by
    rw [hcu, List.length_cons] at hf
    exact exists_fuel (n := u.length) hf
  refine ⟨h.starts, ?_⟩
  rcases n.toJson_cases with ⟨v, hv, hnumeric⟩ | ⟨-, he⟩
  · refine ⟨.ok v, Verdict.isSound_ok fun _ => hnumeric, fun fuel rest hf hr => ?_⟩
    obtain ⟨k, rfl⟩ := hlen hf
    rw [readValue_number h (hn rest hr), hv]
    rfl
  · refine ⟨.error n.whole.length, Verdict.isSound_error _ _, fun fuel rest hf hr => ?_⟩
    obtain ⟨k, rfl⟩ := hlen hf
    rw [readValue_number h (hn rest hr), he]
    rfl

theorem IsString.starts (h : IsString t) : Starts t := by
  cases h with
  | mk characters => exact ⟨_, _, rfl, by decide, by decide, by decide, by decide⟩

/-- A string is read to its closing quote. -/
theorem IsString.readChars (h : IsString t) :
    ∃ u s, t = CodePoint.ofChar '"' :: u ∧ ∀ start rest, Json.readChars start [] 0 (u ++ rest) = .ok (s, rest) := by
  cases h with
  | mk characters =>
    obtain ⟨s, hs⟩ := readChars_of_isCharacters characters []
    refine ⟨_, s, rfl, fun start rest => ?_⟩
    rw [List.append_assoc, List.singleton_append, hs]

theorem readsValue_string (h : IsString t) : ReadsValue lax t := by
  obtain ⟨u, s, rfl, hs⟩ := h.readChars
  refine ⟨h.starts, .ok (.text s), Verdict.isSound_ok fun _ => .text s, fun fuel rest hf _ => ?_⟩
  obtain ⟨k, rfl⟩ := exists_fuel (n := u.length) hf
  rw [List.cons_append, readValue, if_pos rfl, hs]
  rfl

theorem bracket_ne : CodePoint.ofChar '[' ≠ CodePoint.ofChar '"' ∧ CodePoint.ofChar '[' ≠ CodePoint.ofChar '{' := by
  decide

theorem brace_ne : CodePoint.ofChar '{' ≠ CodePoint.ofChar '"' := by decide

theorem readsValue_emptyArray {s : Text} (hs : IsSpaces s) :
    ReadsValue lax (CodePoint.ofChar '[' :: (s ++ [CodePoint.ofChar ']'])) := by
  refine ⟨⟨_, _, rfl, by decide, by decide, by decide, by decide⟩, .ok (.array []),
    Verdict.isSound_ok fun _ => .array fun _ h => absurd h List.not_mem_nil, fun fuel rest hf _ => ?_⟩
  obtain ⟨k, rfl⟩ := exists_fuel (n := (s ++ [CodePoint.ofChar ']']).length) hf
  rw [List.cons_append, readValue, if_neg bracket_ne.1, if_neg bracket_ne.2, if_pos rfl, List.append_assoc,
    List.singleton_append, hs.skipSpace (by decide)]
  rfl

theorem readsValue_emptyObject {s : Text} (hs : IsSpaces s) :
    ReadsValue lax (CodePoint.ofChar '{' :: (s ++ [CodePoint.ofChar '}'])) := by
  refine ⟨⟨_, _, rfl, by decide, by decide, by decide, by decide⟩, .ok (.object []),
    Verdict.isSound_ok fun _ => .object fun _ h => absurd h List.not_mem_nil, fun fuel rest hf _ => ?_⟩
  obtain ⟨k, rfl⟩ := exists_fuel (n := (s ++ [CodePoint.ofChar '}']).length) hf
  rw [List.cons_append, readValue, if_neg brace_ne, if_pos rfl, List.append_assoc, List.singleton_append,
    hs.skipSpace (by decide)]
  rfl

theorem readsValue_array {s : Text} (hs : IsSpaces s) (h : ReadsItems lax t) :
    ReadsValue lax (CodePoint.ofChar '[' :: (s ++ (t ++ [CodePoint.ofChar ']']))) := by
  obtain ⟨verdict, hsound, hreads⟩ := h.reads [] fun _ _ h => absurd h List.not_mem_nil
  refine ⟨⟨_, _, rfl, by decide, by decide, by decide, by decide⟩, verdict, hsound, fun fuel rest hf _ => ?_⟩
  simp only [List.length_cons, List.length_append] at hf
  obtain ⟨k, rfl⟩ := exists_fuel (show t.length < fuel by omega)
  have hr := hreads k rest (by omega)
  obtain ⟨c, u, rfl, hc, hb, -⟩ := h.starts
  rw [List.cons_append, readValue, if_neg bracket_ne.1, if_neg bracket_ne.2, if_pos rfl, List.append_assoc,
    List.append_assoc, List.cons_append, hs.skipSpace hc]
  dsimp only
  rw [if_neg hb, ← hr]
  rfl

theorem readsValue_object {s : Text} (hs : IsSpaces s) (h : ReadsMembers lax t) :
    ReadsValue lax (CodePoint.ofChar '{' :: (s ++ (t ++ [CodePoint.ofChar '}']))) := by
  obtain ⟨verdict, hsound, hreads⟩ := h.reads [] fun _ _ h => absurd h List.not_mem_nil
  refine ⟨⟨_, _, rfl, by decide, by decide, by decide, by decide⟩, verdict, hsound, fun fuel rest hf _ => ?_⟩
  simp only [List.length_cons, List.length_append] at hf
  obtain ⟨k, rfl⟩ := exists_fuel (show t.length < fuel by omega)
  have hr := hreads k rest (by omega)
  obtain ⟨c, u, rfl, hc, -, hb, -⟩ := h.starts
  rw [List.cons_append, readValue, if_neg brace_ne, if_pos rfl, List.append_assoc, List.append_assoc,
    List.cons_append, hs.skipSpace hc]
  dsimp only
  rw [if_neg hb, ← hr]
  rfl

theorem isNumeric_cons {v : Json} {before : List Json} (hv : lax = false → v.IsNumeric)
    (hb : lax = false → ∀ v ∈ before, v.IsNumeric) (hl : lax = false) : ∀ w ∈ v :: before, w.IsNumeric :=
  List.forall_mem_cons.2 ⟨hv hl, hb hl⟩

theorem readsItems_item {v s : Text} (h : ReadsValue lax v) (hs : IsSpaces s) : ReadsItems lax (v ++ s) := by
  obtain ⟨verdict, hsound, hreads⟩ := h.reads
  refine ⟨h.starts.append s, fun before hb => ?_⟩
  have hend (rest : Text) := hs.endsNumber (c := CodePoint.ofChar ']') (.inr (.inl rfl)) rest
  cases verdict with
  | error count =>
    refine ⟨.error count, Verdict.isSound_error _ _, fun fuel rest hf => ?_⟩
    rw [List.length_append] at hf
    obtain ⟨k, rfl⟩ := exists_fuel hf
    rw [readItems, List.append_assoc, hreads k _ (by omega) (hend rest)]
    rfl
  | ok w =>
    have hw : lax = false → w.IsNumeric := fun hl => hsound hl w rfl
    refine ⟨.ok (.array (w :: before).reverse), Verdict.isSound_ok fun hl => .array fun x hx =>
      isNumeric_cons hw hb hl x (List.mem_reverse.1 hx), fun fuel rest hf => ?_⟩
    rw [List.length_append] at hf
    obtain ⟨k, rfl⟩ := exists_fuel hf
    rw [readItems, List.append_assoc, hreads k _ (by omega) (hend rest)]
    simp only [Verdict.reading, hs.skipSpace (c := CodePoint.ofChar ']') rfl, if_true]

theorem readsItems_items {v s s' : Text} (h : ReadsValue lax v) (hs : IsSpaces s) (hs' : IsSpaces s')
    (ht : ReadsItems lax t) : ReadsItems lax (v ++ (s ++ CodePoint.ofChar ',' :: (s' ++ t))) := by
  have hne : CodePoint.ofChar ',' ≠ CodePoint.ofChar ']' := by decide
  obtain ⟨verdict, hsound, hreads⟩ := h.reads
  refine ⟨h.starts.append _, fun before hb => ?_⟩
  have hend (rest : Text) := hs.endsNumber (c := CodePoint.ofChar ',') (.inl rfl) rest
  cases verdict with
  | error count =>
    refine ⟨.error count, Verdict.isSound_error _ _, fun fuel rest hf => ?_⟩
    rw [List.length_append] at hf
    obtain ⟨k, rfl⟩ := exists_fuel hf
    rw [readItems, List.append_assoc, List.append_assoc, List.cons_append, hreads k _ (by omega) (hend _)]
    rfl
  | ok w =>
    obtain ⟨verdict, hsound', hrest⟩ := ht.reads (w :: before) (isNumeric_cons (fun hl => hsound hl w rfl) hb)
    refine ⟨verdict, hsound', fun fuel rest hf => ?_⟩
    simp only [List.length_append, List.length_cons] at hf
    obtain ⟨k, rfl⟩ := exists_fuel hf
    rw [readItems, List.append_assoc, List.append_assoc, List.cons_append, hreads k _ (by omega) (hend _)]
    simp only [Verdict.reading, hs.skipSpace (c := CodePoint.ofChar ',') rfl, if_neg hne, if_true, List.append_assoc,
      ht.starts.skipSpace hs']
    exact hrest k rest (by omega)

/-- A member is read up to what follows its value. -/
theorem readMembers_cons {k s s' : Text} (hk : IsString k) (hs : IsSpaces s) (hs' : IsSpaces s') {v : Text}
    (h : ReadsValue lax v) :
    ∃ (key : Text) (verdict : Verdict), verdict.IsSound lax ∧ ∀ fuel before rest, v.length ≤ fuel → EndsNumber rest →
      readMembers (fuel + 1) before (k ++ (s ++ CodePoint.ofChar ':' :: (s' ++ (v ++ rest)))) =
        match verdict with
        | .error count => .error (.tooManyDigits count)
        | .ok w => match Json.skipSpace rest with
          | [] => .error (.wrong .comma [])
          | e :: r =>
            if e = CodePoint.ofChar '}' then .ok (.object (Entries.insert key w before), r)
            else if e = CodePoint.ofChar ',' then readMembers fuel (Entries.insert key w before) (Json.skipSpace r)
            else .error (.wrong .comma (e :: r)) := by
  obtain ⟨u, key, rfl, hkey⟩ := hk.readChars
  obtain ⟨verdict, hsound, hreads⟩ := h.reads
  refine ⟨key, verdict, hsound, fun fuel before rest hf hr => ?_⟩
  rw [List.cons_append, readMembers, if_pos rfl, hkey]
  simp only [hs.skipSpace (c := CodePoint.ofChar ':') rfl, if_true, h.starts.skipSpace hs', hreads fuel rest hf hr]
  cases verdict <;> rfl

theorem isNumeric_insert {v : Json} {before : Members} (key : Text) (hv : lax = false → v.IsNumeric)
    (hb : lax = false → ∀ m ∈ before, m.2.IsNumeric) (hl : lax = false) :
    ∀ m ∈ Entries.insert key v before, m.2.IsNumeric := by
  intro m hm
  rcases Entries.mem_insert hm with rfl | hm
  · exact hv hl
  · exact hb hl m hm

theorem readsMembers_member {k s s' v s'' : Text} (hk : IsString k) (hs : IsSpaces s) (hs' : IsSpaces s')
    (h : ReadsValue lax v) (hs'' : IsSpaces s'') :
    ReadsMembers lax (k ++ (s ++ CodePoint.ofChar ':' :: (s' ++ (v ++ s'')))) := by
  obtain ⟨key, verdict, hsound, hreads⟩ := readMembers_cons hk hs hs' h
  refine ⟨hk.starts.append _, fun before hb => ?_⟩
  have hend (rest : Text) := hs''.endsNumber (c := CodePoint.ofChar '}') (.inr (.inr rfl)) rest
  have hfuel {fuel : Nat} (hf : (k ++ (s ++ CodePoint.ofChar ':' :: (s' ++ (v ++ s'')))).length < fuel) :
      ∃ n, fuel = n + 1 ∧ v.length ≤ n := by
    simp only [List.length_append, List.length_cons] at hf
    obtain ⟨n, rfl⟩ := exists_fuel hf
    exact ⟨n, rfl, by omega⟩
  cases verdict with
  | error count =>
    refine ⟨.error count, Verdict.isSound_error _ _, fun fuel rest hf => ?_⟩
    obtain ⟨n, rfl, hn⟩ := hfuel hf
    simp only [List.append_assoc, List.cons_append, hreads n before _ hn (hend rest)]
    rfl
  | ok w =>
    have hw : lax = false → w.IsNumeric := fun hl => hsound hl w rfl
    refine ⟨.ok (.object (Entries.insert key w before)),
      Verdict.isSound_ok fun hl => .object (isNumeric_insert key hw hb hl), fun fuel rest hf => ?_⟩
    obtain ⟨n, rfl, hn⟩ := hfuel hf
    simp only [List.append_assoc, List.cons_append, hreads n before _ hn (hend rest),
      hs''.skipSpace (c := CodePoint.ofChar '}') rfl, if_true]
    rfl

theorem readsMembers_members {k s s' v s'' q : Text} (hk : IsString k) (hs : IsSpaces s) (hs' : IsSpaces s')
    (h : ReadsValue lax v) (hs'' : IsSpaces s'') (hq : IsSpaces q) (ht : ReadsMembers lax t) :
    ReadsMembers lax
      (k ++ (s ++ CodePoint.ofChar ':' :: (s' ++ (v ++ (s'' ++ CodePoint.ofChar ',' :: (q ++ t)))))) := by
  have hne : CodePoint.ofChar ',' ≠ CodePoint.ofChar '}' := by decide
  obtain ⟨key, verdict, hsound, hreads⟩ := readMembers_cons hk hs hs' h
  refine ⟨hk.starts.append _, fun before hb => ?_⟩
  have hend (rest : Text) := hs''.endsNumber (c := CodePoint.ofChar ',') (.inl rfl) rest
  have hfuel {fuel : Nat}
      (hf : (k ++ (s ++ CodePoint.ofChar ':' :: (s' ++ (v ++ (s'' ++ CodePoint.ofChar ',' :: (q ++ t)))))).length <
        fuel) : ∃ n, fuel = n + 1 ∧ v.length ≤ n ∧ t.length < n := by
    simp only [List.length_append, List.length_cons] at hf
    obtain ⟨n, rfl⟩ := exists_fuel hf
    exact ⟨n, rfl, by omega, by omega⟩
  cases verdict with
  | error count =>
    refine ⟨.error count, Verdict.isSound_error _ _, fun fuel rest hf => ?_⟩
    obtain ⟨n, rfl, hn, -⟩ := hfuel hf
    simp only [List.append_assoc, List.cons_append, hreads n before _ hn (hend _)]
    rfl
  | ok w =>
    obtain ⟨verdict, hsound', hrest⟩ := ht.reads (Entries.insert key w before)
      (isNumeric_insert key (fun hl => hsound hl w rfl) hb)
    refine ⟨verdict, hsound', fun fuel rest hf => ?_⟩
    obtain ⟨n, rfl, hn, hnt⟩ := hfuel hf
    simp only [List.append_assoc, List.cons_append, hreads n before _ hn (hend _),
      hs''.skipSpace (c := CodePoint.ofChar ',') rfl, if_neg hne, if_true, ht.starts.skipSpace hq]
    exact hrest n rest hnt

/-- What the reader makes of a text of each kind. -/
def Reads (lax : Bool) : Symbol → Text → Prop
  | .value => ReadsValue lax
  | .items => ReadsItems lax
  | .members => ReadsMembers lax

/-- Whatever the grammar derives is read to its end. -/
theorem Derives.reads {symbol : Symbol} (h : Derives lax symbol t) : Reads lax symbol t := by
  induction h with
  | word mem =>
    simp only [List.mem_cons, List.not_mem_nil, or_false] at mem
    rcases mem with rfl | rfl | rfl
    · exact readsValue_word (v := .null) (by simp [words]) fun _ => .null
    · exact readsValue_word (v := .bool true) (by simp [words]) fun _ => .bool true
    · exact readsValue_word (v := .bool false) (by simp [words]) fun _ => .bool false
  | laxWord allowed mem =>
    have hlax {v : Json} (hl : lax = false) : v.IsNumeric := by rw [hl] at allowed; cases allowed
    simp only [List.mem_cons, List.not_mem_nil, or_false] at mem
    rcases mem with rfl | rfl | rfl
    · exact readsValue_word (v := .float .nan) (by simp [words]) hlax
    · exact readsValue_word (v := .float (.infinite false)) (by simp [words]) hlax
    · exact readsValue_word (v := .float (.infinite true)) (by simp [words]) hlax
  | number number => exact readsValue_number number
  | string string => exact readsValue_string string
  | emptyArray spaces => exact readsValue_emptyArray spaces
  | array spaces _ ih => exact readsValue_array spaces ih
  | emptyObject spaces => exact readsValue_emptyObject spaces
  | object spaces _ ih => exact readsValue_object spaces ih
  | item _ spaces ih => exact readsItems_item ih spaces
  | items _ spaces spaces' _ ih ih' => exact readsItems_items ih spaces spaces' ih'
  | member key spaces spaces' _ spaces'' ih => exact readsMembers_member key spaces spaces' ih spaces''
  | members key spaces spaces' _ spaces'' spacesNext _ ih ih' =>
    exact readsMembers_members key spaces spaces' ih spaces'' spacesNext ih'

end Derived

/-- No mark of the byte order comes first. -/
theorem readAll_eq_go {s t : Text} (hs : IsSpaces s) (ht : Starts t) : readAll (s ++ t) = readAll.go (s ++ t) := by
  cases s with
  | nil =>
    obtain ⟨c, u, rfl, -, -, -, hc⟩ := ht
    rw [List.nil_append, readAll, if_neg hc]
  | cons c s =>
    have hc := hs c (List.mem_cons_self ..)
    simp only [isSpace, Bool.or_eq_true, beq_iff_eq] at hc
    rw [List.cons_append, readAll, if_neg (by omega)]

/-- A standard document is read, as a value that is numeric, unless the reader stops at an integer of too many
digits. -/
theorem IsStandard.read {t : Text} (h : IsStandard t) :
    (∃ v, Json.read t = .ok v ∧ v.IsNumeric) ∨ ∃ count, Json.read t = .error (.tooManyDigits count) := by
  obtain ⟨s, u, s', hs, hu, hs', rfl⟩ := h
  have hv : ReadsValue false u := hu.reads
  obtain ⟨verdict, hsound, hreads⟩ := hv.reads
  have hlen : u.length ≤ 2 * (s ++ (u ++ s')).length + 2 := by
    simp only [List.length_append]
    omega
  have hgo : readAll.go (s ++ (u ++ s')) = match verdict with
      | .ok v => .ok v
      | .error count => .error (.tooManyDigits count) := by
    rw [readAll.go, hv.starts.skipSpace hs, hreads _ s' hlen hs'.endsNumber_self]
    cases verdict with
    | ok v => simp only [Verdict.reading, hs'.skipSpace_self]
    | error count => rfl
  rw [Json.read, readAll_eq_go hs (hv.starts.append s'), hgo]
  cases verdict with
  | ok v => exact .inl ⟨v, rfl, hsound rfl v rfl⟩
  | error count => exact .inr ⟨count, rfl⟩

end LspEndpoint.Json
