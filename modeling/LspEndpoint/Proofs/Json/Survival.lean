import LspEndpoint.Proofs.Json.Double

/-!
Values as they are read back from where they stand. What is read may differ from what was written in its doubles; lists
and objects are read with as many items and members as were written, in their order, from the start of any text in
which they stand.
-/
namespace LspEndpoint

namespace Json

section Reading

/-- A value that is read as some value from where it stands in a text, given fuel for each of its characters. It
begins with an ASCII character other than a space and the bracket that ends a list. -/
structure Survives (ascii : Bool) (v w : Json) : Prop where
  starts : ∃ c t, render ascii v = c :: t ∧ c.val < 0x80 ∧ isSpace c = false ∧ c ≠ CodePoint.ofChar ']'
  reads : ∀ fuel rest, (render ascii v).length ≤ fuel → EndsNumber rest →
    readValue fuel (render ascii v ++ rest) = .ok (w, rest)

theorem skipSpace_of_not_space {c : CodePoint} (h : isSpace c = false) (t : Text) :
    skipSpace (c :: t) = c :: t :=
  List.dropWhile_cons_of_neg (by simp [h])

theorem endsNumber_cons {c : CodePoint} (h : c.val = 0x2C ∨ c.val = 0x5D ∨ c.val = 0x7D) (t : Text) :
    EndsNumber (c :: t) := by
  rintro d hd
  obtain rfl : c = d := Option.some.inj hd
  refine ⟨CodePoint.isDigit_eq_false (by omega), ?_, ?_, ?_⟩ <;>
    exact fun e => absurd (congrArg CodePoint.val e) (by rcases h with h | h | h <;> rw [h] <;> decide)

theorem endsNumber_nil : EndsNumber [] := fun _ h => by cases h

variable {ascii : Bool} {fuel : Nat} {rest : Text}

theorem survives_text {t : Text} (h : ascii → t.isUnsplit) : Survives ascii (.text t) (.text t) := by
  refine ⟨⟨CodePoint.ofChar '"', _, rfl, by decide, by decide, by decide⟩, fun fuel rest hf _ => ?_⟩
  cases fuel with
  | zero => exact absurd hf (by simp [render, renderText])
  | succ fuel =>
    rw [render, renderText, List.cons_append, List.append_assoc, List.singleton_append, readValue,
      if_pos rfl, readChars_flatMap _ _ ascii h]
    rfl

/-- What is written as a word is read as what the word stands for. -/
theorem survives_word (word : String) {v w : Json} (hw : (word, w) ∈ words) (hv : render ascii v = word) :
    Survives ascii v w := by
  simp only [words, List.mem_cons, Prod.mk.injEq, List.not_mem_nil, or_false] at hw
  rcases hw with ⟨rfl, rfl⟩ | ⟨rfl, rfl⟩ | ⟨rfl, rfl⟩ | ⟨rfl, rfl⟩ | ⟨rfl, rfl⟩ | ⟨rfl, rfl⟩
  all_goals
    refine ⟨⟨_, _, hv, by decide, by decide, by decide⟩, fun fuel rest hf _ => ?_⟩
    rw [hv] at hf ⊢
    cases fuel with
    | zero => exact absurd hf (by decide)
    | succ fuel => rfl

theorem survives_null : Survives ascii .null .null := survives_word "null" (by simp [words]) rfl

theorem survives_bool (b : Bool) : Survives ascii (.bool b) (.bool b) := by
  cases b with
  | false => exact survives_word "false" (by simp [words]) rfl
  | true => exact survives_word "true" (by simp [words]) rfl

/-- No word is found where a text begins differently from all of them. -/
theorem readWord?_eq_none {t : Text} (h : ∀ w ∈ words, (Text.ofString w.1).isPrefixOf t = false) :
    readWord? t = none := by
  rw [readWord?, List.findSome?_eq_none_iff]
  intro w hw
  rw [afterWord?, Text.startsWith, h w hw]
  rfl

theorem readWord?_of_isDigit {c : CodePoint} (h : c.isDigit) (t : Text) : readWord? (c :: t) = none := by
  have hw : ∀ w ∈ words, ((Text.ofString w.1).head?.map CodePoint.isDigit) = some false := by
    decide
  refine readWord?_eq_none fun w hm => ?_
  have hd := hw w hm
  cases hs : Text.ofString w.1 with
  | nil => simp [hs] at hd
  | cons d s =>
    have hne : d ≠ c := fun e => by simp [hs, e, h] at hd
    simp [List.isPrefixOf, hne]

theorem readWord?_of_minus {c : CodePoint} (h : c.isDigit) (t : Text) :
    readWord? (CodePoint.ofChar '-' :: c :: t) = none := by
  have hw : ∀ w ∈ words, ((Text.ofString w.1).tail.head?.map CodePoint.isDigit) = some false := by
    decide
  refine readWord?_eq_none fun w hm => ?_
  have hd := hw w hm
  cases hs : Text.ofString w.1 with
  | nil => simp [hs] at hd
  | cons a s =>
    cases s with
    | nil => simp [hs] at hd
    | cons d s =>
      have hne : d ≠ c := fun e => by simp [hs, e, h] at hd
      simp [List.isPrefixOf, hne]

/-- What begins neither a string nor an object nor a list nor a word is read as a number. -/
theorem readValue_numeral {c : CodePoint} {t : Text} (hc : c.isDigit ∨ c = CodePoint.ofChar '-')
    (hw : readWord? (c :: t) = none) {n : Numeral} (hn : numeral? (c :: t) = some (n, rest)) {v : Json}
    (hv : n.toJson = .ok v) : readValue (fuel + 1) (c :: t) = .ok (v, rest) := by
  have hne {d : CodePoint} (hd : d.val < 0x2D ∨ 0x39 < d.val) : c ≠ d := by
    rcases hc with h | rfl
    · exact CodePoint.ne_of_isDigit h (by omega)
    · have hm : (CodePoint.ofChar '-').val = 0x2D := rfl
      rintro rfl
      omega
  rw [readValue, if_neg (hne (by decide)), if_neg (hne (by decide)), if_neg (hne (by decide)), hw]
  simp only [hn, hv]

/-- What is written as a numeral is read as what the numeral stands for. -/
theorem survives_numeral {n : Numeral} (hn : n.IsWritten) {v w : Json} (hv : render ascii v = n.text)
    (hw : n.toJson = .ok w) : Survives ascii v w := by
  obtain ⟨c, t, hc, -, ht⟩ := hn.head_text
  have hr (rest : Text) (he : EndsNumber rest) := numeral?_text hn he
  rw [ht] at hv hr
  constructor
  · rw [hv]
    split
    · exact ⟨CodePoint.ofChar '-', c :: t, rfl, by decide, by decide, by decide⟩
    · refine ⟨c, t, rfl, ?_, ?_, CodePoint.ne_of_isDigit hc (by decide)⟩
      all_goals simp only [CodePoint.isDigit, Bool.and_eq_true, decide_eq_true_eq] at hc
      · omega
      · simp only [isSpace, Bool.or_eq_false_iff, beq_eq_false_iff_ne]
        omega
  · intro fuel rest hf he
    have hr := hr rest he
    rw [hv] at hf ⊢
    cases fuel with
    | zero => split at hf <;> exact absurd hf (by simp)
    | succ fuel =>
      split at hr
      · rename_i hneg
        rw [if_pos hneg]
        exact readValue_numeral (.inr rfl) (readWord?_of_minus hc _) hr hw
      · rename_i hneg
        rw [if_neg hneg]
        exact readValue_numeral (.inl hc) (readWord?_of_isDigit hc _) hr hw

theorem survives_int {n : Int} (h : Integer.isShown n) : Survives ascii (.int n) (.int n) :=
  survives_numeral (Numeral.isWritten_ofInt n) (Numeral.text_ofInt n).symm (Numeral.toJson_ofInt h)

/-- Every double is read as some double. -/
theorem survives_float (x : Binary64) : ∃ y, Survives ascii (.float x) (.float y) := by
  rcases x.text_cases with (h | h | h) | ⟨n, hn, hf, ht⟩
  · exact ⟨.nan, survives_word "NaN" (by simp [words]) h⟩
  · exact ⟨.infinite false, survives_word "Infinity" (by simp [words]) h⟩
  · exact ⟨.infinite true, survives_word "-Infinity" (by simp [words]) h⟩
  · obtain ⟨y, hy⟩ := n.toJson_of_isFractional hf
    exact ⟨y, survives_numeral hn ht hy⟩

theorem Survives.skipSpace_append {v w : Json} (h : Survives ascii v w) (t : Text) :
    skipSpace (render ascii v ++ t) = render ascii v ++ t := by
  obtain ⟨c, u, hu, -, hc, -⟩ := h.starts
  rw [hu, List.cons_append, skipSpace_of_not_space hc]

theorem comma_eq : Text.ofString ", " = [CodePoint.ofChar ',', CodePoint.ofChar ' '] := by
  decide

theorem colon_eq : Text.ofString ": " = [CodePoint.ofChar ':', CodePoint.ofChar ' '] := by
  decide

theorem brackets_eq :
    Text.ofString "[" = [CodePoint.ofChar '['] ∧ Text.ofString "]" = [CodePoint.ofChar ']'] := by
  decide

theorem braces_eq :
    Text.ofString "\x7b" = [CodePoint.ofChar '{'] ∧
      Text.ofString "\x7d" = [CodePoint.ofChar '}'] := by
  decide

theorem exists_renderItems_eq (v : Json) (items : List Json) :
    ∃ t, renderItems ascii (v :: items) = render ascii v ++ t := by
  cases items with
  | nil => exact ⟨[], (List.append_nil _).symm⟩
  | cons w items => exact ⟨_, by rw [renderItems, List.append_assoc]⟩

variable {f : Json → Json}

/-- Items are read up to the bracket behind them. -/
theorem readItems_renderItems {items : List Json} (h : ∀ v ∈ items, Survives ascii v (f v)) (hn : items ≠ [])
    (hf : (renderItems ascii items).length < fuel) (before : List Json) (rest : Text) :
    readItems fuel before (renderItems ascii items ++ CodePoint.ofChar ']' :: rest) =
      .ok (.array (before.reverse ++ items.map f), rest) := by
  induction items generalizing fuel before with
  | nil => exact absurd rfl hn
  | cons v items ih =>
    have hv := h v (List.mem_cons_self ..)
    obtain ⟨fuel, rfl⟩ : ∃ k, fuel = k + 1 := ⟨fuel - 1, by omega⟩
    cases items with
    | nil =>
      rw [renderItems] at hf ⊢
      rw [readItems, hv.reads fuel _ (by omega) (endsNumber_cons (by decide) rest)]
      simp only [skipSpace_of_not_space (c := CodePoint.ofChar ']') rfl, if_true, List.reverse_cons, List.map_cons,
        List.map_nil]
    | cons w items =>
      have hb : CodePoint.ofChar ',' ≠ CodePoint.ofChar ']' := by decide
      obtain ⟨t, ht⟩ := exists_renderItems_eq w items
      have hs (u : Text) : skipSpace (CodePoint.ofChar ' ' :: (renderItems ascii (w :: items) ++ u)) =
          renderItems ascii (w :: items) ++ u := by
        rw [ht, List.append_assoc]
        exact (h w (by simp)).skipSpace_append _
      simp only [renderItems, comma_eq, List.length_append, List.length_cons] at hf
      have hlen : (renderItems ascii (w :: items)).length < fuel := by omega
      have hr := ih (fun u hu => h u (List.mem_cons_of_mem _ hu)) (by simp) hlen (f v :: before)
      rw [renderItems, comma_eq, readItems, List.append_assoc, List.append_assoc, List.cons_append,
        List.cons_append, List.nil_append, hv.reads fuel _ (by omega) (endsNumber_cons (.inl rfl) _)]
      simp only [skipSpace_of_not_space (c := CodePoint.ofChar ',') rfl, if_neg hb, if_true, hs, hr,
        List.reverse_cons, List.append_assoc]
      rfl

theorem survives_array {items : List Json} (h : ∀ v ∈ items, Survives ascii v (f v)) :
    Survives ascii (.array items) (.array (items.map f)) := by
  refine ⟨⟨CodePoint.ofChar '[', _, by rw [render, brackets_eq.1]; rfl, by decide, by decide, by decide⟩,
    fun fuel rest hf _ => ?_⟩
  rw [render, brackets_eq.1, brackets_eq.2] at hf ⊢
  simp only [List.length_append, List.length_cons, List.length_nil] at hf
  obtain ⟨fuel, rfl⟩ : ∃ k, fuel = k + 1 := ⟨fuel - 1, by omega⟩
  have hq : CodePoint.ofChar '[' ≠ CodePoint.ofChar '"' := by decide
  have hb : CodePoint.ofChar '[' ≠ CodePoint.ofChar '{' := by decide
  rw [List.singleton_append, List.cons_append, List.cons_append, readValue, if_neg hq, if_neg hb, if_pos rfl]
  cases items with
  | nil => rfl
  | cons v items =>
    obtain ⟨t, ht⟩ := exists_renderItems_eq v items
    obtain ⟨c, u, hu, -, hs, hc⟩ := (h v (List.mem_cons_self ..)).starts
    have hlen : (renderItems ascii (v :: items)).length < fuel := by omega
    have hr := readItems_renderItems h (by simp) hlen [] rest
    rw [ht, hu] at hr ⊢
    simp only [List.cons_append, List.nil_append, List.append_assoc, List.reverse_nil,
      skipSpace_of_not_space hs, if_neg hc] at hr ⊢
    exact hr

/-- A member is read up to what follows its value. -/
theorem readMembers_member {k : Text} (hk : ascii → k.isUnsplit) {v w : Json} (h : Survives ascii v w)
    (hf : (render ascii v).length ≤ fuel) (before : Members) {c : CodePoint}
    (hc : c = CodePoint.ofChar ',' ∨ c = CodePoint.ofChar '}') (rest : Text) :
    readMembers (fuel + 1) before (renderText ascii k ++ ": " ++ render ascii v ++ c :: rest) =
      if c = CodePoint.ofChar '}' then .ok (.object (Entries.insert k w before), rest)
      else readMembers fuel (Entries.insert k w before) (skipSpace rest) := by
  have hs : isSpace c = false ∧ isSpace (CodePoint.ofChar ':') = false := by
    rcases hc with rfl | rfl <;> exact ⟨rfl, rfl⟩
  have he : EndsNumber (c :: rest) := endsNumber_cons (by rcases hc with rfl | rfl <;> decide) rest
  have hsp (u : Text) : skipSpace (CodePoint.ofChar ' ' :: (render ascii v ++ u)) = render ascii v ++ u :=
    h.skipSpace_append u
  rw [renderText, colon_eq, List.append_assoc, List.append_assoc, List.cons_append, List.append_assoc,
    List.singleton_append, readMembers, if_pos rfl, readChars_flatMap _ _ ascii hk]
  simp only [List.cons_append, List.nil_append, skipSpace_of_not_space hs.2, if_true, hsp,
    h.reads fuel _ hf he, skipSpace_of_not_space hs.1, List.reverse_nil]
  rcases hc with rfl | rfl
  · rfl
  · rfl

theorem exists_renderMembers_eq (m : Text × Json) (members : Members) :
    ∃ t, renderMembers ascii (m :: members) = CodePoint.ofChar '"' :: t := by
  obtain ⟨k, v⟩ := m
  cases members with
  | nil => exact ⟨_, rfl⟩
  | cons n members => exact ⟨_, rfl⟩

/-- Members are read up to the brace behind them, and each comes after those before it. -/
theorem readMembers_renderMembers {members : Members} (h : ∀ m ∈ members, Survives ascii m.2 (f m.2))
    (hu : ∀ m ∈ members, ascii → m.1.isUnsplit) (hn : members ≠ [])
    (hf : (renderMembers ascii members).length < fuel) (before : Members)
    (hd : ((before ++ members).map Prod.fst).Nodup) (rest : Text) :
    readMembers fuel before (renderMembers ascii members ++ CodePoint.ofChar '}' :: rest) =
      .ok (.object (before ++ members.map fun m => (m.1, f m.2)), rest) := by
  induction members generalizing fuel before with
  | nil => exact absurd rfl hn
  | cons m members ih =>
    obtain ⟨k, v⟩ := m
    have hv : Survives ascii v (f v) := h (k, v) (List.mem_cons_self ..)
    have hku : ascii → k.isUnsplit := hu (k, v) (List.mem_cons_self ..)
    have hk : k ∉ before.map Prod.fst := by
      rw [List.map_append, List.map_cons] at hd
      exact fun hm => (List.nodup_append.1 hd).2.2 k hm k (List.mem_cons_self ..) rfl
    obtain ⟨fuel, rfl⟩ : ∃ n, fuel = n + 1 := ⟨fuel - 1, by omega⟩
    cases members with
    | nil =>
      simp only [renderMembers, List.length_append] at hf ⊢
      rw [readMembers_member hku hv (by omega) before (.inr rfl) rest, if_pos rfl,
        Entries.insert_of_not_mem hk]
      rfl
    | cons n members =>
      have hb : CodePoint.ofChar ',' ≠ CodePoint.ofChar '}' := by decide
      obtain ⟨t, ht⟩ := exists_renderMembers_eq n members
      have hs (u : Text) : skipSpace (CodePoint.ofChar ' ' :: (renderMembers ascii (n :: members) ++ u)) =
          renderMembers ascii (n :: members) ++ u := by
        rw [ht]
        rfl
      simp only [renderMembers, comma_eq, List.length_append, List.length_cons] at hf
      have hlen : (renderMembers ascii (n :: members)).length < fuel := by omega
      have hd' : ((before ++ [(k, f v)] ++ n :: members).map Prod.fst).Nodup := by
        simpa only [List.map_append, List.map_cons, List.map_nil, List.append_assoc, List.singleton_append] using hd
      have hr := ih (fun u hm => h u (List.mem_cons_of_mem _ hm)) (fun u hm => hu u (List.mem_cons_of_mem _ hm))
        (by simp) hlen (before ++ [(k, f v)]) hd'
      rw [renderMembers, comma_eq, List.append_assoc, List.append_assoc, List.cons_append,
        List.cons_append, List.nil_append, readMembers_member hku hv (by omega) before (.inl rfl), if_neg hb,
        hs, Entries.insert_of_not_mem hk, hr, List.append_assoc]
      rfl

theorem survives_object {members : Members} (h : ∀ m ∈ members, Survives ascii m.2 (f m.2))
    (hu : ∀ m ∈ members, ascii → m.1.isUnsplit) (hd : (members.map Prod.fst).Nodup) :
    Survives ascii (.object members) (.object (members.map fun m => (m.1, f m.2))) := by
  refine ⟨⟨CodePoint.ofChar '{', _, by rw [render, braces_eq.1]; rfl, by decide, by decide, by decide⟩,
    fun fuel rest hf _ => ?_⟩
  rw [render, braces_eq.1, braces_eq.2] at hf ⊢
  simp only [List.length_append, List.length_cons, List.length_nil] at hf
  obtain ⟨fuel, rfl⟩ : ∃ k, fuel = k + 1 := ⟨fuel - 1, by omega⟩
  have hq : CodePoint.ofChar '{' ≠ CodePoint.ofChar '"' := by decide
  rw [List.singleton_append, List.cons_append, List.cons_append, readValue, if_neg hq, if_pos rfl]
  cases members with
  | nil => rfl
  | cons m members =>
    have hb : CodePoint.ofChar '"' ≠ CodePoint.ofChar '}' := by decide
    obtain ⟨t, ht⟩ := exists_renderMembers_eq m members
    have hlen : (renderMembers ascii (m :: members)).length < fuel := by omega
    have hr := readMembers_renderMembers h hu (by simp) hlen [] hd rest
    rw [ht] at hr ⊢
    simp only [List.cons_append, List.nil_append, List.append_assoc,
      skipSpace_of_not_space (c := CodePoint.ofChar '"') rfl, if_neg hb] at hr ⊢
    exact hr

/-- What is read from a whole text that is the written form of a value. -/
theorem Survives.read {v w : Json} (h : Survives ascii v w) : Json.read (render ascii v) = .ok w := by
  obtain ⟨c, t, ht, hc, -⟩ := h.starts
  have hv := h.reads (2 * (render ascii v).length + 2) [] (by omega) endsNumber_nil
  have hs := h.skipSpace_append []
  rw [List.append_nil] at hv hs
  have hgo : readAll.go (render ascii v) = .ok w := by
    rw [readAll.go, hs, hv]
    rfl
  have hall : readAll (render ascii v) = .ok w := by
    rw [ht] at hgo ⊢
    rw [readAll, if_neg (by omega), hgo]
  rw [Json.read, hall]

end Reading

end Json

end LspEndpoint
