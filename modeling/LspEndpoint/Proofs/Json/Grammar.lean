import LspEndpoint.Proofs.Json.Reading

/-!
The grammar of documents, after RFC 8259, kept apart from the reader. The reader scans a whole string or numeral of
the grammar, whatever follows that cannot belong to it, and scans nothing else.
-/
namespace LspEndpoint.Json

def IsSpaces (t : Text) : Prop := ∀ c ∈ t, isSpace c

/-- What may stand between the quotes of a string. -/
inductive IsCharacters : Text → Prop
  | nil : IsCharacters []
  | plain {c : CodePoint} {t : Text} (control : 0x20 ≤ c.val) (quote : c ≠ CodePoint.ofChar '"')
      (escape : c ≠ CodePoint.ofChar '\\') (rest : IsCharacters t) : IsCharacters (c :: t)
  | escape {c : CodePoint} {t : Text} (short : c ∈ Text.ofString "\"\\/bfnrt") (rest : IsCharacters t) :
      IsCharacters (CodePoint.ofChar '\\' :: c :: t)
  | unicode {ds t : Text} (four : ds.length = 4) (hex : ∀ d ∈ ds, d.hexValue?.isSome) (rest : IsCharacters t) :
      IsCharacters (CodePoint.ofChar '\\' :: CodePoint.ofChar 'u' :: (ds ++ t))

inductive IsString : Text → Prop
  | mk {t : Text} (characters : IsCharacters t) :
      IsString (CodePoint.ofChar '"' :: (t ++ [CodePoint.ofChar '"']))

def IsDigits (t : Text) : Prop := t ≠ [] ∧ ∀ c ∈ t, c.isDigit

/-- No zero stands in front of another digit. -/
inductive IsWhole : Text → Prop
  | zero : IsWhole [CodePoint.ofChar '0']
  | digits {c : CodePoint} {t : Text} (nonzero : c ≠ CodePoint.ofChar '0') (digit : c.isDigit)
      (rest : ∀ d ∈ t, d.isDigit) : IsWhole (c :: t)

inductive IsFraction : Text → Prop
  | none : IsFraction []
  | digits {t : Text} (digits : IsDigits t) : IsFraction (CodePoint.ofChar '.' :: t)

inductive IsExponent : Text → Prop
  | none : IsExponent []
  | digits {e : CodePoint} {sign t : Text} (mark : e = CodePoint.ofChar 'e' ∨ e = CodePoint.ofChar 'E')
      (sign_mem : sign ∈ [[], [CodePoint.ofChar '+'], [CodePoint.ofChar '-']]) (digits : IsDigits t) :
      IsExponent (e :: (sign ++ t))

inductive IsNumber : Text → Prop
  | mk {minus whole fraction exponent : Text} (minus_mem : minus ∈ [[], [CodePoint.ofChar '-']])
      (whole_mem : IsWhole whole) (fraction_mem : IsFraction fraction) (exponent_mem : IsExponent exponent) :
      IsNumber (minus ++ (whole ++ (fraction ++ exponent)))

inductive Symbol
  | value
  | items
  | members

/-- The texts of values, of items up to a closing bracket, and of members up to a closing brace. Beside what the
standard derives, the reader takes words for what is no number. -/
inductive Derives (lax : Bool) : Symbol → Text → Prop
  | word {w : String} (mem : w ∈ ["null", "true", "false"]) : Derives lax .value w
  | laxWord {w : String} (allowed : lax) (mem : w ∈ ["NaN", "Infinity", "-Infinity"]) : Derives lax .value w
  | number {t : Text} (number : IsNumber t) : Derives lax .value t
  | string {t : Text} (string : IsString t) : Derives lax .value t
  | emptyArray {s : Text} (spaces : IsSpaces s) :
      Derives lax .value (CodePoint.ofChar '[' :: (s ++ [CodePoint.ofChar ']']))
  | array {s t : Text} (spaces : IsSpaces s) (items : Derives lax .items t) :
      Derives lax .value (CodePoint.ofChar '[' :: (s ++ (t ++ [CodePoint.ofChar ']'])))
  | emptyObject {s : Text} (spaces : IsSpaces s) :
      Derives lax .value (CodePoint.ofChar '{' :: (s ++ [CodePoint.ofChar '}']))
  | object {s t : Text} (spaces : IsSpaces s) (members : Derives lax .members t) :
      Derives lax .value (CodePoint.ofChar '{' :: (s ++ (t ++ [CodePoint.ofChar '}'])))
  | item {v s : Text} (value : Derives lax .value v) (spaces : IsSpaces s) : Derives lax .items (v ++ s)
  | items {v s s' t : Text} (value : Derives lax .value v) (spaces : IsSpaces s) (spaces' : IsSpaces s')
      (rest : Derives lax .items t) : Derives lax .items (v ++ (s ++ CodePoint.ofChar ',' :: (s' ++ t)))
  | member {k s s' v s'' : Text} (key : IsString k) (spaces : IsSpaces s) (spaces' : IsSpaces s')
      (value : Derives lax .value v) (spaces'' : IsSpaces s'') :
      Derives lax .members (k ++ (s ++ CodePoint.ofChar ':' :: (s' ++ (v ++ s''))))
  | members {k s s' v s'' q t : Text} (key : IsString k) (spaces : IsSpaces s) (spaces' : IsSpaces s')
      (value : Derives lax .value v) (spaces'' : IsSpaces s'') (spacesNext : IsSpaces q)
      (rest : Derives lax .members t) :
      Derives lax .members
        (k ++ (s ++ CodePoint.ofChar ':' :: (s' ++ (v ++ (s'' ++ CodePoint.ofChar ',' :: (q ++ t))))))

/-- The text is a document of the standard. -/
def IsStandard (t : Text) : Prop :=
  ∃ s v s' : Text, IsSpaces s ∧ Derives false .value v ∧ IsSpaces s' ∧ t = s ++ (v ++ s')

/-- Spaces are skipped up to what is none. -/
theorem IsSpaces.skipSpace {s : Text} (h : IsSpaces s) {c : CodePoint} (hc : isSpace c = false) (t : Text) :
    Json.skipSpace (s ++ c :: t) = c :: t := by
  rw [Json.skipSpace, List.dropWhile_append_of_pos h]
  exact skipSpace_of_not_space hc t

theorem IsSpaces.skipSpace_self {s : Text} (h : IsSpaces s) : Json.skipSpace s = [] := by
  rw [Json.skipSpace, ← List.append_nil s, List.dropWhile_append_of_pos h]
  rfl

theorem endsNumber_of_isSpace {c : CodePoint} (h : isSpace c) (t : Text) : EndsNumber (c :: t) := by
  simp only [isSpace, Bool.or_eq_true, beq_iff_eq] at h
  rintro d hd
  obtain rfl : c = d := Option.some.inj hd
  refine ⟨CodePoint.isDigit_eq_false (by omega), ?_, ?_, ?_⟩ <;>
    exact fun e => absurd (congrArg CodePoint.val e) (by rcases h with ((h | h) | h) | h <;> rw [h] <;> decide)

theorem IsSpaces.endsNumber_self {s : Text} (h : IsSpaces s) : EndsNumber s := by
  cases s with
  | nil => exact endsNumber_nil
  | cons d s => exact endsNumber_of_isSpace (h d (List.mem_cons_self ..)) s

/-- No number goes on behind spaces and a delimiter. -/
theorem IsSpaces.endsNumber {s : Text} (h : IsSpaces s) {c : CodePoint}
    (hc : c.val = 0x2C ∨ c.val = 0x5D ∨ c.val = 0x7D) (t : Text) : EndsNumber (s ++ c :: t) := by
  cases s with
  | nil => exact endsNumber_cons hc t
  | cons d s => exact endsNumber_of_isSpace (h d (List.mem_cons_self ..)) _

/-- What is skipped are spaces. -/
theorem exists_of_skipSpace (t : Text) : ∃ s, IsSpaces s ∧ t = s ++ skipSpace t :=
  ⟨t.takeWhile isSpace, List.all_eq_true.1 List.all_takeWhile, List.takeWhile_append_dropWhile.symm⟩

section Strings

variable {t : Text}

theorem hexCode?_eq_some {c : CodePoint} (h : hexCode? t = some c) :
    ∃ (ds : Text) (e : CodePoint) (u : Text), ds.length = 4 ∧ (∀ d ∈ ds, d.hexValue?.isSome) ∧ t = ds ++ e :: u := by
  unfold hexCode? at h
  split at h
  · rename_i a b c d e u
    split at h
    · rename_i ha hb hc hd
      exact ⟨[a, b, c, d], e, u, rfl, by simp [ha, hb, hc, hd], rfl⟩
    · cases h
  · cases h

theorem exists_hexCode? {ds : Text} (h4 : ds.length = 4) (hx : ∀ d ∈ ds, d.hexValue?.isSome) :
    ∃ c, ∀ (e : CodePoint) (u : Text), hexCode? (ds ++ e :: u) = some c := by
  obtain ⟨a, b, c, d, rfl⟩ : ∃ a b c d, ds = [a, b, c, d] := by
    match ds, h4 with
    | [a, b, c, d], _ => exact ⟨a, b, c, d, rfl⟩
  simp only [List.forall_mem_cons, Option.isSome_iff_exists] at hx
  obtain ⟨⟨_, ha⟩, ⟨_, hb⟩, ⟨_, hc⟩, ⟨_, hd⟩, -⟩ := hx
  exact ⟨_, fun e u => by simp only [List.cons_append, List.nil_append, hexCode?, ha, hb, hc, hd]; rfl⟩

theorem shortEscape?_of_mem {c : CodePoint} (h : c ∈ Text.ofString "\"\\/bfnrt") :
    ∃ d, shortEscape? c = some d := by
  have hall : ∀ c ∈ Text.ofString "\"\\/bfnrt", (shortEscape? c).isSome := by decide
  exact Option.isSome_iff_exists.1 (hall c h)

theorem mem_of_shortEscape? {c d : CodePoint} (h : shortEscape? c = some d) : c ∈ Text.ofString "\"\\/bfnrt" := by
  unfold shortEscape? at h
  split at h
  · rename_i hc
    rcases hc with rfl | rfl | rfl <;> decide
  repeat' split at h
  all_goals cases h
  all_goals
    rename_i hc
    subst hc
    decide

theorem ne_u_of_mem {c : CodePoint} (h : c ∈ Text.ofString "\"\\/bfnrt") : c ≠ CodePoint.ofChar 'u' := by
  rintro rfl
  exact absurd h (by decide)

/-- Whether a trailing half is named next does not depend on what follows the string; where one is, the escape ends
inside the string. -/
theorem IsCharacters.escapedTrailing? (h : IsCharacters t) :
    (∀ rest, Json.escapedTrailing? (t ++ CodePoint.ofChar '"' :: rest) = none) ∨
      ∃ (d : CodePoint) (p u : Text), t = p ++ u ∧ p.length = 6 ∧ IsCharacters u ∧
        ∀ rest, Json.escapedTrailing? (t ++ CodePoint.ofChar '"' :: rest) = some d := by
  cases h with
  | nil => exact .inl fun rest => by cases rest <;> rfl
  | plain control quote escape rest =>
    rename_i c u
    refine .inl fun rest => ?_
    obtain ⟨e, v, he⟩ : ∃ e v, u ++ CodePoint.ofChar '"' :: rest = e :: v := List.exists_cons_of_ne_nil (by simp)
    rw [List.cons_append, he, Json.escapedTrailing?, if_neg fun h => escape h.1]
  | escape short rest =>
    exact .inl fun rest => by
      rw [List.cons_append, List.cons_append, Json.escapedTrailing?, if_neg fun h => ne_u_of_mem short h.2]
  | unicode four hex rest =>
    rename_i ds u
    obtain ⟨c, hc⟩ := exists_hexCode? four hex
    have hx (rest : Text) : Json.escapedTrailing? (CodePoint.ofChar '\\' :: CodePoint.ofChar 'u' :: (ds ++ u) ++
        CodePoint.ofChar '"' :: rest) = (some c).filter CodePoint.isTrailing := by
      obtain ⟨e, v, he⟩ : ∃ e v, u ++ CodePoint.ofChar '"' :: rest = e :: v := List.exists_cons_of_ne_nil (by simp)
      rw [List.cons_append, List.cons_append, List.append_assoc, he, Json.escapedTrailing?, if_pos ⟨rfl, rfl⟩, hc]
    by_cases ht : c.isTrailing
    · refine .inr ⟨c, CodePoint.ofChar '\\' :: CodePoint.ofChar 'u' :: ds, u, rfl, by simp [four], rest, ?_⟩
      exact fun rest => by rw [hx, Option.filter_some, if_pos ht]
    · exact .inl fun rest => by rw [hx, Option.filter_some, if_neg ht]

/-- An escape is taken for the same code point, whatever follows the string. -/
theorem IsCharacters.unicodeEscape? {ds u : Text} (h : IsCharacters u) (four : ds.length = 4)
    (hex : ∀ d ∈ ds, d.hexValue?.isSome) :
    ∃ (d : CodePoint) (p v : Text), u = p ++ v ∧ IsCharacters v ∧
      ∀ rest, Json.unicodeEscape? (ds ++ (u ++ CodePoint.ofChar '"' :: rest)) = some (d, p.length + 4) := by
  obtain ⟨c, hc⟩ := exists_hexCode? four hex
  have hdrop (r : Text) : (ds ++ r).drop 4 = r := by rw [← four, List.drop_left]
  have hx (rest : Text) : hexCode? (ds ++ (u ++ CodePoint.ofChar '"' :: rest)) = some c := by
    obtain ⟨e, v, he⟩ : ∃ e v, u ++ CodePoint.ofChar '"' :: rest = e :: v := List.exists_cons_of_ne_nil (by simp)
    rw [he, hc]
  cases hl : c.isLeading with
  | false =>
    refine ⟨c, [], u, rfl, h, fun rest => ?_⟩
    rw [Json.unicodeEscape?, hx, Option.map_some, hl]
    rfl
  | true =>
    rcases h.escapedTrailing? with hnone | ⟨d, p, v, rfl, hp, hv, hd⟩
    · refine ⟨c, [], u, rfl, h, fun rest => ?_⟩
      rw [Json.unicodeEscape?, hx, Option.map_some, hl, if_pos rfl, hdrop, hnone]
      rfl
    · refine ⟨.ofPair c d, p, v, rfl, hv, fun rest => ?_⟩
      rw [Json.unicodeEscape?, hx, Option.map_some, hl, if_pos rfl, hdrop, hd, hp]

/-- What stands between quotes is read up to the closing one, whatever follows. -/
theorem readChars_of_isCharacters (h : IsCharacters t) (read : Text) :
    ∃ s, ∀ start rest, readChars start read 0 (t ++ CodePoint.ofChar '"' :: rest) = .ok (s, rest) := by
  have hq : CodePoint.ofChar '\\' ≠ CodePoint.ofChar '"' := by decide
  induction hn : t.length using Nat.strongRecOn generalizing t read with
  | ind n ih =>
    cases h with
    | nil => exact ⟨read.reverse, fun start rest => readChars_quote start read rest⟩
    | plain control quote escape rest =>
      rename_i c u
      obtain ⟨s, hs⟩ := ih u.length (by rw [← hn, List.length_cons]; omega) rest (c :: read) rfl
      refine ⟨s, fun start rest => ?_⟩
      obtain ⟨e, v, he⟩ : ∃ e v, u ++ CodePoint.ofChar '"' :: rest = e :: v := List.exists_cons_of_ne_nil (by simp)
      rw [List.cons_append, he, readChars, if_neg quote, if_neg escape, if_neg (by omega), ← he, hs]
    | escape short rest =>
      rename_i c u
      obtain ⟨d, hd⟩ := shortEscape?_of_mem short
      obtain ⟨s, hs⟩ := ih u.length (by rw [← hn, List.length_cons, List.length_cons]; omega) rest (d :: read) rfl
      refine ⟨s, fun start rest => ?_⟩
      rw [List.cons_append, List.cons_append, readChars_shortEscape start read (ne_u_of_mem short) hd, hs]
    | unicode four hex rest =>
      rename_i ds u
      obtain ⟨d, p, v, rfl, hv, hx⟩ := rest.unicodeEscape? four hex
      have hlen : v.length < n := by
        rw [← hn, List.length_cons, List.length_cons, List.length_append, List.length_append]
        omega
      obtain ⟨s, hs⟩ := ih v.length hlen hv (d :: read) rfl
      refine ⟨s, fun start rest => ?_⟩
      have hskip := readChars_skip start (d :: read) (CodePoint.ofChar 'u' :: (ds ++ p))
        (v ++ CodePoint.ofChar '"' :: rest)
      rw [List.cons_append, List.length_cons, List.length_append, four, Nat.add_comm 4] at hskip
      rw [List.cons_append, List.cons_append, readChars, if_neg hq, if_pos rfl]
      simp only [List.append_assoc, if_true] at hskip hx ⊢
      rw [hx]
      simp only [hskip, hs]

theorem readChars_drop {start read s rest : Text} {skip : Nat} (h : readChars start read skip t = .ok (s, rest)) :
    readChars start read 0 (t.drop skip) = .ok (s, rest) := by
  induction t generalizing skip with
  | nil => cases skip <;> cases h
  | cons c t ih =>
    cases skip with
    | zero => exact h
    | succ skip => exact ih h

theorem escapedTrailing?_eq_some {d : CodePoint} (h : escapedTrailing? t = some d) :
    ∃ (ds : Text) (e : CodePoint) (u : Text), ds.length = 4 ∧ (∀ d ∈ ds, d.hexValue?.isSome) ∧
      t = CodePoint.ofChar '\\' :: CodePoint.ofChar 'u' :: (ds ++ e :: u) := by
  unfold escapedTrailing? at h
  split at h
  · split at h
    · rename_i hbu
      obtain ⟨ds, e, u, four, hex, rfl⟩ := hexCode?_eq_some (Option.filter_eq_some_iff.1 h).1
      exact ⟨ds, e, u, four, hex, by rw [hbu.1, hbu.2]⟩
    · cases h
  · cases h

/-- The digits of an escape, and those of the trailing half that it is taken with. -/
theorem exists_of_unicodeEscape? {d : CodePoint} {taken : Nat} (h : unicodeEscape? t = some (d, taken)) :
    ∃ ds u : Text, ds.length = 4 ∧ (∀ d ∈ ds, d.hexValue?.isSome) ∧ t = ds ++ u ∧
      ∀ v, IsCharacters v → ∀ w, t.drop taken = v ++ w → ∃ v', IsCharacters v' ∧ u = v' ++ w := by
  unfold unicodeEscape? at h
  obtain ⟨c, hc, he⟩ := Option.map_eq_some_iff.1 h
  obtain ⟨ds, e, u, four, hex, rfl⟩ := hexCode?_eq_some hc
  have hdrop (n : Nat) : (ds ++ e :: u).drop (4 + n) = (e :: u).drop n := by
    rw [← four, List.drop_length_add_append]
  refine ⟨ds, e :: u, four, hex, rfl, fun v hv w hw => ?_⟩
  split at he
  · rename_i f hp
    obtain ⟨-, rfl⟩ := Prod.mk.inj he
    split at hp
    · obtain ⟨ds', e', u', four', hex', hu⟩ := escapedTrailing?_eq_some hp
      rw [hdrop 0, List.drop_zero] at hu
      have hdrop' : (ds' ++ e' :: u').drop 4 = e' :: u' := by rw [← four', List.drop_left]
      rw [hdrop 6, hu, List.drop_succ_cons, List.drop_succ_cons, hdrop'] at hw
      exact ⟨_, .unicode four' hex' hv, by rw [hu, hw]; simp⟩
    · cases hp
  · obtain ⟨-, rfl⟩ := Prod.mk.inj he
    rw [hdrop 0, List.drop_zero] at hw
    exact ⟨v, hv, hw⟩

/-- What is read up to a quote is what may stand before it. -/
theorem exists_of_readChars {start read s rest : Text} (h : readChars start read 0 t = .ok (s, rest)) :
    ∃ p, IsCharacters p ∧ t = p ++ CodePoint.ofChar '"' :: rest := by
  induction hn : t.length using Nat.strongRecOn generalizing t read with
  | ind n ih =>
    cases t with
    | nil => cases h
    | cons c t =>
      have hlen {u : Text} (hu : u.length ≤ t.length) : u.length < n := by
        rw [← hn, List.length_cons]
        omega
      unfold readChars at h
      split at h
      · rename_i hc
        cases h
        exact ⟨[], .nil, by rw [hc, List.nil_append]⟩
      split at h
      · rename_i hc
        cases t with
        | nil => cases h
        | cons e r =>
          dsimp only at h
          split at h
          · rename_i hu
            split at h
            · rename_i d taken hx
              obtain ⟨ds, u, four, hex, rfl, hback⟩ := exists_of_unicodeEscape? hx
              have hr := readChars_drop h
              rw [List.drop_succ_cons] at hr
              obtain ⟨p, hp, hq⟩ := ih _ (hlen (by rw [List.length_drop]; simp; omega)) hr rfl
              obtain ⟨p', hp', rfl⟩ := hback p hp _ hq
              exact ⟨_, .unicode four hex hp', by rw [hc, hu]; simp⟩
            · cases h
          · split at h
            · rename_i d hx
              obtain ⟨p, hp, hq⟩ := ih _ (hlen (by simp)) (readChars_drop h) rfl
              rw [List.drop_succ_cons, List.drop_zero] at hq
              exact ⟨_, .escape (mem_of_shortEscape? hx) hp, by rw [hc, hq]; rfl⟩
            · cases h
      split at h
      · cases h
      · rename_i hquote hescape hcontrol
        obtain ⟨p, hp, rfl⟩ := ih _ (hlen (Nat.le_refl _)) h rfl
        exact ⟨_, .plain (by omega) hquote hescape hp, rfl⟩

end Strings

section Numbers

variable {t rest : Text}

theorem IsWhole.head (h : IsWhole t) : ∃ c u, t = c :: u ∧ c.isDigit := by
  cases h with
  | zero => exact ⟨_, [], rfl, by decide⟩
  | digits nonzero digit rest => exact ⟨_, _, rfl, digit⟩

theorem IsWhole.wholePart? (h : IsWhole t) (hr : EndsDigits rest) : Json.wholePart? (t ++ rest) = some (t, rest) := by
  cases h with
  | zero => rfl
  | digits nonzero digit digits =>
    obtain ⟨hl, hw⟩ := leadingDigits_append hr digits
    rw [List.cons_append, Json.wholePart?, if_neg nonzero, if_pos digit, hl, hw]

theorem IsFraction.fractionPart (h : IsFraction t) :
    ∃ ds, ∀ rest, EndsDigits rest → (∀ c ∈ rest.head?, c ≠ CodePoint.ofChar '.') →
      Json.fractionPart (t ++ rest) = (ds, rest) := by
  cases h with
  | none =>
    refine ⟨[], fun rest _ hp => ?_⟩
    cases rest with
    | nil => rfl
    | cons c u => rw [List.nil_append, Json.fractionPart, if_neg fun h => hp c rfl h.1]
  | digits digits =>
    rename_i ds
    refine ⟨ds, fun rest hr _ => ?_⟩
    obtain ⟨hl, hw⟩ := leadingDigits_append hr digits.2
    rw [List.cons_append, Json.fractionPart, hl, hw, if_pos ⟨rfl, digits.1⟩]

theorem IsDigits.sign (h : IsDigits t) (rest : Text) : Integer.sign (t ++ rest) = (false, t ++ rest) := by
  obtain ⟨c, u, rfl⟩ := List.exists_cons_of_ne_nil h.1
  have hc := h.2 c (List.mem_cons_self ..)
  rw [List.cons_append, Integer.sign, if_neg (CodePoint.ne_of_isDigit hc (by decide)),
    if_neg (CodePoint.ne_of_isDigit hc (by decide))]

theorem IsExponent.exponentPart (h : IsExponent t) :
    ∃ e, ∀ rest, EndsNumber rest → Json.exponentPart (t ++ rest) = (e, rest) := by
  cases h with
  | none =>
    refine ⟨Option.none, fun rest hr => ?_⟩
    cases rest with
    | nil => rfl
    | cons c u =>
      have hc : ¬ (c = CodePoint.ofChar 'e' ∨ c = CodePoint.ofChar 'E') := fun h =>
        h.elim (hr c rfl).2.2.1 (hr c rfl).2.2.2
      rw [List.nil_append, Json.exponentPart, if_neg fun h => hc h.1]
  | digits mark sign_mem digits =>
    rename_i e sign ds
    have hs : ∃ b, ∀ rest, Integer.sign (sign ++ (ds ++ rest)) = (b, ds ++ rest) := by
      simp only [List.mem_cons, List.not_mem_nil, or_false] at sign_mem
      rcases sign_mem with rfl | rfl | rfl
      · exact ⟨false, digits.sign⟩
      · exact ⟨false, fun _ => rfl⟩
      · exact ⟨true, fun _ => rfl⟩
    obtain ⟨b, hs⟩ := hs
    refine ⟨some (b, ds), fun rest hr => ?_⟩
    obtain ⟨hl, hw⟩ := leadingDigits_append (fun c hc => (hr c hc).1) digits.2
    rw [List.cons_append, List.append_assoc, Json.exponentPart]
    simp only [hs, hl, hw, if_pos (And.intro mark digits.1)]

theorem IsExponent.ends (h : IsExponent t) (hr : EndsNumber rest) :
    EndsDigits (t ++ rest) ∧ ∀ c ∈ (t ++ rest).head?, c ≠ CodePoint.ofChar '.' := by
  cases h with
  | none => exact ⟨fun c hc => (hr c hc).1, fun c hc => (hr c hc).2.1⟩
  | digits mark sign_mem digits =>
    refine ⟨fun c hc => ?_, fun c hc => ?_⟩
    all_goals
      obtain rfl := Option.some.inj hc
      rcases mark with rfl | rfl <;> decide

theorem IsFraction.ends (h : IsFraction t) (hr : EndsDigits rest) : EndsDigits (t ++ rest) := by
  cases h with
  | none => exact hr
  | digits digits =>
    intro c hc
    obtain rfl := Option.some.inj hc
    decide

/-- A number begins with a digit, or with a sign before one. -/
theorem IsNumber.head (h : IsNumber t) :
    ∃ c u, c.isDigit ∧ (t = c :: u ∨ t = CodePoint.ofChar '-' :: c :: u) := by
  cases h with
  | mk minus_mem whole_mem fraction_mem exponent_mem =>
    obtain ⟨c, u, rfl, hc⟩ := whole_mem.head
    simp only [List.mem_cons, List.not_mem_nil, or_false] at minus_mem
    rcases minus_mem with rfl | rfl
    · exact ⟨c, _, hc, .inl rfl⟩
    · exact ⟨c, _, hc, .inr rfl⟩

/-- A number is scanned up to what cannot belong to it. -/
theorem IsNumber.numeral? (h : IsNumber t) :
    ∃ n, ∀ rest, EndsNumber rest → Json.numeral? (t ++ rest) = some (n, rest) := by
  cases h with
  | mk minus_mem whole_mem fraction_mem exponent_mem =>
    rename_i minus whole fraction exponent
    obtain ⟨ds, hf⟩ := fraction_mem.fractionPart
    obtain ⟨e, he⟩ := exponent_mem.exponentPart
    obtain ⟨c, u, hcu, hc⟩ := whole_mem.head
    have hm : c ≠ CodePoint.ofChar '-' := CodePoint.ne_of_isDigit hc (by decide)
    simp only [List.mem_cons, List.not_mem_nil, or_false] at minus_mem
    refine ⟨⟨decide (minus ≠ []), whole, ds, e⟩, fun rest hr => ?_⟩
    obtain ⟨hd, hp⟩ := exponent_mem.ends hr
    have hw := whole_mem.wholePart? (fraction_mem.ends hd)
    have hf := hf _ hd hp
    have he := he rest hr
    rcases minus_mem with rfl | rfl
    · simp only [List.nil_append, List.append_assoc]
      rw [hcu, List.cons_append] at hw ⊢
      simp only [Json.numeral?, if_neg hm, hw, Option.map_some, hf, he]
      rfl
    · simp only [List.cons_append, List.nil_append, List.append_assoc, Json.numeral?, if_true, hw, Option.map_some,
        hf, he]
      rfl

theorem isDigits_leadingDigits (h : leadingDigits t ≠ []) : IsDigits (leadingDigits t) :=
  ⟨h, fun _ => isDigit_of_mem_leadingDigits⟩

theorem leadingDigits_append_dropWhile (t : Text) : leadingDigits t ++ t.dropWhile CodePoint.isDigit = t :=
  List.takeWhile_append_dropWhile

theorem exists_of_wholePart? {whole : Text} (h : wholePart? t = some (whole, rest)) :
    IsWhole whole ∧ t = whole ++ rest := by
  cases t with
  | nil => cases h
  | cons c t =>
    rw [wholePart?] at h
    split at h
    · rename_i hc
      cases h
      exact ⟨hc ▸ .zero, rfl⟩
    split at h
    · rename_i hzero hc
      cases h
      exact ⟨.digits hzero hc fun _ => isDigit_of_mem_leadingDigits, by
        rw [List.cons_append, leadingDigits_append_dropWhile]⟩
    · cases h

theorem exists_of_fractionPart (t : Text) : ∃ f, IsFraction f ∧ t = f ++ (fractionPart t).2 := by
  cases t with
  | nil => exact ⟨[], .none, rfl⟩
  | cons c t =>
    rw [fractionPart]
    split
    · rename_i h
      exact ⟨_, .digits (isDigits_leadingDigits h.2), by rw [h.1, List.cons_append, leadingDigits_append_dropWhile]⟩
    · exact ⟨[], .none, rfl⟩

theorem exists_of_sign (t : Text) :
    ∃ s ∈ [[], [CodePoint.ofChar '+'], [CodePoint.ofChar '-']], t = s ++ (Integer.sign t).2 := by
  cases t with
  | nil => exact ⟨[], by simp, rfl⟩
  | cons c t =>
    rw [Integer.sign]
    split
    · rename_i h
      exact ⟨[CodePoint.ofChar '-'], by simp, by rw [h]; rfl⟩
    split
    · rename_i h
      exact ⟨[CodePoint.ofChar '+'], by simp, by rw [h]; rfl⟩
    · exact ⟨[], by simp, rfl⟩

theorem exists_of_exponentPart (t : Text) : ∃ e, IsExponent e ∧ t = e ++ (exponentPart t).2 := by
  cases t with
  | nil => exact ⟨[], .none, rfl⟩
  | cons c t =>
    rw [exponentPart]
    split
    · rename_i h
      obtain ⟨s, hs, ht⟩ := exists_of_sign t
      refine ⟨_, .digits h.1 hs (isDigits_leadingDigits h.2), ?_⟩
      rw [List.cons_append, List.append_assoc, leadingDigits_append_dropWhile, ← ht]
    · exact ⟨[], .none, rfl⟩

/-- What is scanned as a number is one. -/
theorem exists_of_numeral? {n : Numeral} (h : numeral? t = some (n, rest)) :
    ∃ p, IsNumber p ∧ t = p ++ rest := by
  unfold numeral? at h
  dsimp only at h
  obtain ⟨⟨whole, afterWhole⟩, hw, he⟩ := Option.map_eq_some_iff.1 h
  obtain ⟨-, rfl⟩ := Prod.mk.inj he
  have hminus : ∃ minus ∈ [[], [CodePoint.ofChar '-']], ∃ body,
      t = minus ++ body ∧ wholePart? body = some (whole, afterWhole) := by
    cases t with
    | nil => exact ⟨[], by simp, [], rfl, hw⟩
    | cons c r =>
      dsimp only at hw
      split at hw
      · rename_i hc
        exact ⟨[CodePoint.ofChar '-'], by simp, r, by rw [hc]; rfl, hw⟩
      · exact ⟨[], by simp, c :: r, rfl, hw⟩
  obtain ⟨minus, hm, body, rfl, hbody⟩ := hminus
  obtain ⟨hwhole, rfl⟩ := exists_of_wholePart? hbody
  obtain ⟨f, hf, hfe⟩ := exists_of_fractionPart afterWhole
  obtain ⟨e, he, hee⟩ := exists_of_exponentPart (fractionPart afterWhole).2
  refine ⟨_, .mk hm hwhole hf he, ?_⟩
  dsimp only
  rw [List.append_assoc, List.append_assoc, List.append_assoc, ← hee, ← hfe]

end Numbers

end LspEndpoint.Json
