import LspEndpoint.Proofs.Json.Decoded

/-!
What reading gives. A value that is read from a text without surrogates has integers short enough to be shown, no two
members under one key, and no text in which the halves of a surrogate pair stand one after the other, although escapes
can name halves that stand alone.
-/
namespace LspEndpoint

namespace Text

theorem isScalar_of_suffix {s t : Text} (h : s <:+ t) (ht : t.isScalar) : s.isScalar :=
  List.all_eq_true.2 fun c hc => List.all_eq_true.1 ht c (h.subset hc)

theorem isUnsplit_concat {t : Text} {d : CodePoint} (ht : t.isUnsplit)
    (hd : ∀ c ∈ t.getLast?, c.isLeading → d.isTrailing = false) : isUnsplit (t ++ [d]) := by
  induction t with
  | nil => rfl
  | cons c t ih =>
    cases t with
    | nil =>
      cases hc : c.isLeading with
      | false => simp [isUnsplit, hc]
      | true => simp [isUnsplit, hd c rfl hc]
    | cons e t =>
      obtain ⟨hce, ht⟩ := Bool.and_eq_true_iff.1 ht
      exact Bool.and_eq_true_iff.2 ⟨hce, ih ht hd⟩

end Text

namespace CodePoint

theorem not_isLeading_of_isScalar {c : CodePoint} (h : c.isScalar) : c.isLeading = false ∧ c.isTrailing = false := by
  simpa [isScalar, isSurrogate_eq] using h

/-- Two halves make a code point that is none. -/
theorem ofPair_isScalar {a b : CodePoint} (ha : a.isLeading) (hb : b.isTrailing) : (ofPair a b).isScalar := by
  simp only [isLeading, isTrailing, Bool.and_eq_true, decide_eq_true_eq] at ha hb
  rw [isScalar, isSurrogate, ofPair, val_ofNat (by omega)]
  simp only [Bool.not_eq_true', Bool.and_eq_false_iff, decide_eq_false_iff_not]
  omega

end CodePoint

namespace Json

section Strings

theorem unicodeEscape?_eq_some {t : Text} {d : CodePoint} {taken : Nat} (h : unicodeEscape? t = some (d, taken)) :
    (d.isTrailing → hexCode? t = some d) ∧ (d.isLeading → escapedTrailing? (t.drop taken) = none) := by
  unfold unicodeEscape? at h
  obtain ⟨c, hc, he⟩ := Option.map_eq_some_iff.1 h
  split at he
  · rename_i e hp
    split at hp
    · rename_i hl
      simp only [Prod.mk.injEq] at he
      obtain ⟨rfl, -⟩ := he
      have ht : e.isTrailing := by
        unfold escapedTrailing? at hp
        split at hp
        · split at hp
          · exact (Option.filter_eq_some_iff.1 hp).2
          · cases hp
        · cases hp
      obtain ⟨hlead, htrail⟩ := CodePoint.not_isLeading_of_isScalar (CodePoint.ofPair_isScalar hl ht)
      refine ⟨fun h => ?_, fun h => ?_⟩
      · rw [htrail] at h
        cases h
      · rw [hlead] at h
        cases h
    · cases hp
  · rename_i hp
    cases he
    exact ⟨fun _ => hc, fun hl => by rwa [if_pos hl] at hp⟩

theorem isScalar_of_shortEscape? {c d : CodePoint} (h : shortEscape? c = some d) : d.isScalar := by
  unfold shortEscape? at h
  split at h
  · rename_i hc
    cases h
    rcases hc with rfl | rfl | rfl <;> decide
  repeat' split at h
  all_goals cases h
  all_goals decide

/-- Characters read so far, backwards: no pair is split among them, and none will be by what is named next. -/
structure Pending (read rest : Text) : Prop where
  unsplit : Text.isUnsplit read.reverse
  leading : ∀ c ∈ read.head?, c.isLeading → escapedTrailing? rest = none

theorem Pending.cons {read rest after : Text} (h : Pending read rest) {d : CodePoint}
    (hd : ∀ c ∈ read.head?, c.isLeading → d.isTrailing = false)
    (hn : d.isLeading → escapedTrailing? after = none) : Pending (d :: read) after := by
  refine ⟨?_, fun c hc hl => ?_⟩
  · rw [List.reverse_cons]
    exact Text.isUnsplit_concat h.unsplit fun c hc => hd c (by rwa [List.getLast?_reverse] at hc)
  · obtain rfl : d = c := Option.some.inj hc
    exact hn hl

theorem Pending.cons_scalar {read rest after : Text} (h : Pending read rest) {d : CodePoint} (hd : d.isScalar) :
    Pending (d :: read) after := by
  obtain ⟨hlead, htrail⟩ := CodePoint.not_isLeading_of_isScalar hd
  exact h.cons (fun _ _ _ => htrail) fun hl => by rw [hlead] at hl; cases hl

theorem readChars_unsplit {start read t s rest : Text} {skip : Nat} (ht : t.isScalar)
    (hp : Pending read (t.drop skip)) (h : readChars start read skip t = .ok (s, rest)) :
    s.isUnsplit ∧ rest <:+ t := by
  induction t generalizing read skip with
  | nil => cases skip <;> cases h
  | cons c t ih =>
    obtain ⟨hc, ht⟩ := Bool.and_eq_true_iff.1 ht
    cases skip with
    | succ skip =>
      rw [readChars] at h
      exact (ih ht hp h).imp id fun hs => hs.trans (List.suffix_cons ..)
    | zero =>
      have hsuffix {s : Text} (h : s <:+ t) : s <:+ c :: t := h.trans (List.suffix_cons ..)
      unfold readChars at h
      split at h
      · cases h
        exact ⟨hp.unsplit, List.suffix_cons ..⟩
      split at h
      · rename_i hb
        cases t with
        | nil => cases h
        | cons e r =>
          dsimp only at h
          split at h
          · rename_i hu
            split at h
            · rename_i d taken hx
              obtain ⟨htrail, hlead⟩ := unicodeEscape?_eq_some hx
              refine (ih ht (hp.cons (fun b hb' hl => ?_) hlead) h).imp id hsuffix
              have hnone := hp.leading b hb' hl
              rw [List.drop_zero, hb, hu, escapedTrailing?, if_pos ⟨rfl, rfl⟩] at hnone
              refine Bool.eq_false_iff.2 fun hd => ?_
              rw [htrail hd, Option.filter_some, if_pos hd] at hnone
              cases hnone
            · cases h
          · split at h
            · rename_i d hx
              exact (ih ht (hp.cons_scalar (isScalar_of_shortEscape? hx)) h).imp id hsuffix
            · cases h
      split at h
      · cases h
      · exact (ih ht (hp.cons_scalar hc) h).imp id hsuffix

end Strings

section Numbers

theorem isDigit_of_mem_leadingDigits {t : Text} {c : CodePoint} (h : c ∈ leadingDigits t) : c.isDigit :=
  List.all_eq_true.1 List.all_takeWhile c h

theorem digitValue_le {c : CodePoint} (h : c.isDigit) : c.digitValue ≤ 9 := by
  simp only [CodePoint.isDigit, Bool.and_eq_true, decide_eq_true_eq] at h
  unfold CodePoint.digitValue
  omega

/-- Each digit more makes a number less than ten times as large as the next number was. -/
theorem foldl_digits_lt {ds : Text} (h : ∀ c ∈ ds, c.isDigit) (n : Nat) :
    ds.foldl (fun n c => n * 10 + c.digitValue) n < (n + 1) * Nat.pow 10 ds.length := by
  induction ds generalizing n with
  | nil => simp
  | cons c ds ih =>
    have hc := digitValue_le (h c (List.mem_cons_self ..))
    have hle : n * 10 + c.digitValue + 1 ≤ (n + 1) * 10 := by omega
    calc ds.foldl (fun n c => n * 10 + c.digitValue) (n * 10 + c.digitValue)
      _ < (n * 10 + c.digitValue + 1) * Nat.pow 10 ds.length := ih (fun d hd => h d (List.mem_cons_of_mem _ hd)) _
      _ ≤ (n + 1) * 10 * Nat.pow 10 ds.length := Nat.mul_le_mul_right _ hle
      _ = (n + 1) * Nat.pow 10 (c :: ds).length := by
        rw [Nat.mul_assoc, Nat.mul_comm 10]
        rfl

theorem natOfDigits_lt {ds : Text} (h : ∀ c ∈ ds, c.isDigit) : natOfDigits ds < Nat.pow 10 ds.length := by
  simpa [natOfDigits] using foldl_digits_lt h 0

theorem wholePart?_eq_some {t whole rest : Text} (h : wholePart? t = some (whole, rest)) :
    (∀ c ∈ whole, c.isDigit) ∧ rest <:+ t := by
  cases t with
  | nil => cases h
  | cons c t =>
    rw [wholePart?] at h
    split at h
    · rename_i hc
      cases h
      refine ⟨fun d hd => ?_, List.suffix_cons ..⟩
      rw [List.mem_singleton.1 hd, hc]
      decide
    split at h
    · rename_i hc
      cases h
      refine ⟨fun d hd => ?_, (List.dropWhile_suffix _).trans (List.suffix_cons ..)⟩
      exact (List.mem_cons.1 hd).elim (fun e => e ▸ hc) isDigit_of_mem_leadingDigits
    · cases h

theorem fractionPart_suffix (t : Text) : (fractionPart t).2 <:+ t := by
  cases t with
  | nil => exact List.suffix_refl _
  | cons c t =>
    rw [fractionPart]
    split
    · exact (List.dropWhile_suffix _).trans (List.suffix_cons ..)
    · exact List.suffix_refl _

theorem sign_suffix (t : Text) : (Integer.sign t).2 <:+ t := by
  cases t with
  | nil => exact List.suffix_refl _
  | cons c t =>
    rw [Integer.sign]
    split
    · exact List.suffix_cons ..
    split
    · exact List.suffix_cons ..
    · exact List.suffix_refl _

theorem exponentPart_suffix (t : Text) : (exponentPart t).2 <:+ t := by
  cases t with
  | nil => exact List.suffix_refl _
  | cons c t =>
    rw [exponentPart]
    split
    · exact (List.dropWhile_suffix _).trans ((sign_suffix t).trans (List.suffix_cons ..))
    · exact List.suffix_refl _

theorem numeral?_eq_some {t rest : Text} {n : Numeral} (h : numeral? t = some (n, rest)) :
    (∀ c ∈ n.whole, c.isDigit) ∧ rest <:+ t := by
  unfold numeral? at h
  dsimp only at h
  obtain ⟨⟨whole, afterWhole⟩, hw, he⟩ := Option.map_eq_some_iff.1 h
  simp only [Prod.mk.injEq] at he
  obtain ⟨rfl, rfl⟩ := he
  obtain ⟨hd, hs⟩ := wholePart?_eq_some hw
  refine ⟨hd, (exponentPart_suffix _).trans ((fractionPart_suffix _).trans (hs.trans ?_))⟩
  cases t with
  | nil => exact List.suffix_refl _
  | cons c t =>
    change (if c = CodePoint.ofChar '-' then (true, t) else (false, c :: t)).2 <:+ c :: t
    split
    · exact List.suffix_cons ..
    · exact List.suffix_refl _

theorem toJson_isDecoded {n : Numeral} {v : Json} (hd : ∀ c ∈ n.whole, c.isDigit) (h : n.toJson = .ok v) :
    v.IsDecoded true := by
  unfold Numeral.toJson at h
  split at h
  · split at h
    · cases h
    · rename_i hl
      cases h
      refine .int ?_
      have habs : (if n.negative then -(natOfDigits n.whole : Int) else natOfDigits n.whole).natAbs =
          natOfDigits n.whole := by
        split
        · rw [Int.natAbs_neg, Int.natAbs_natCast]
        · rw [Int.natAbs_natCast]
      rw [Integer.isShown, habs]
      -- The bound stays a variable, so that no power of ten is worked out.
      generalize maxIntegerDigits = k at hl ⊢
      exact decide_eq_true
        (Nat.lt_of_lt_of_le (natOfDigits_lt hd) (Nat.pow_le_pow_right (by decide) (Nat.not_lt.1 hl)))
  · cases h
    exact .float rfl

theorem readWord?_eq_some {t rest : Text} {v : Json} (h : readWord? t = some (v, rest)) :
    v.IsDecoded true ∧ rest <:+ t := by
  obtain ⟨w, hw, he⟩ := List.exists_of_findSome?_eq_some h
  obtain ⟨u, hu, he⟩ := Option.map_eq_some_iff.1 he
  cases he
  constructor
  · simp only [words, List.mem_cons, List.not_mem_nil, or_false] at hw
    rcases hw with rfl | rfl | rfl | rfl | rfl | rfl
    · exact .null
    · exact .bool true
    · exact .bool false
    all_goals exact .float rfl
  · unfold afterWord? at hu
    split at hu
    · cases hu
      exact List.drop_suffix ..
    · cases hu

end Numbers

section Values

theorem skipSpace_suffix (t : Text) : skipSpace t <:+ t := List.dropWhile_suffix _

/-- Members that are decoded, with no key twice. -/
structure MembersDecoded (members : Members) : Prop where
  distinct : (members.map Prod.fst).Nodup
  unsplit : ∀ m ∈ members, m.1.isUnsplit
  decoded : ∀ m ∈ members, m.2.IsDecoded true

theorem MembersDecoded.object {members : Members} (h : MembersDecoded members) : IsDecoded true (.object members) :=
  .object h.distinct h.unsplit h.decoded

theorem membersDecoded_nil : MembersDecoded [] :=
  ⟨List.nodup_nil, fun _ h => absurd h List.not_mem_nil, fun _ h => absurd h List.not_mem_nil⟩

theorem MembersDecoded.insert {members : Members} (h : MembersDecoded members) {key : Text} (hk : key.isUnsplit)
    {v : Json} (hv : v.IsDecoded true) : MembersDecoded (Entries.insert key v members) := by
  refine ⟨?_, fun m hm => ?_, fun m hm => ?_⟩
  · by_cases hin : key ∈ members.map Prod.fst
    · rw [Entries.keys_insert_of_mem hin]
      exact h.distinct
    · rw [Entries.keys_insert_of_not_mem hin]
      refine List.nodup_append.2 ⟨h.distinct, by simp, fun k hkm l hl => ?_⟩
      rw [List.mem_singleton.1 hl]
      exact fun e => hin (e ▸ hkm)
  · exact (Entries.mem_insert hm).elim (fun e => e ▸ hk) (h.unsplit m)
  · exact (Entries.mem_insert hm).elim (fun e => e ▸ hv) (h.decoded m)

/-- What reading with some fuel gives is decoded, and what follows it is the end of the text. -/
structure ReadsDecoded (fuel : Nat) : Prop where
  value : ∀ t v rest, Text.isScalar t → readValue fuel t = .ok (v, rest) → v.IsDecoded true ∧ rest <:+ t
  items : ∀ before t v rest, Text.isScalar t → (∀ w ∈ before, IsDecoded true w) →
    readItems fuel before t = .ok (v, rest) → v.IsDecoded true ∧ rest <:+ t
  members : ∀ before t v rest, Text.isScalar t → MembersDecoded before →
    readMembers fuel before t = .ok (v, rest) → v.IsDecoded true ∧ rest <:+ t

variable {fuel : Nat} (ih : ReadsDecoded fuel) {t rest : Text} {v : Json} (ht : t.isScalar)

theorem readString_unsplit {start s : Text} (ht : t.isScalar) (h : readChars start [] 0 t = .ok (s, rest)) :
    s.isUnsplit ∧ rest <:+ t :=
  readChars_unsplit ht ⟨rfl, fun _ hc => by cases hc⟩ h

include ih ht

theorem readItems_isDecoded {before : List Json} (hb : ∀ w ∈ before, IsDecoded true w)
    (h : readItems (fuel + 1) before t = .ok (v, rest)) : v.IsDecoded true ∧ rest <:+ t := by
  rw [readItems] at h
  split at h
  · cases h
  rename_i w r hv
  obtain ⟨hw, hs⟩ := ih.value _ _ _ ht hv
  have hb' : ∀ u ∈ w :: before, IsDecoded true u := fun u hu => (List.mem_cons.1 hu).elim (fun e => e ▸ hw) (hb u)
  split at h
  · cases h
  rename_i d q hd
  have hq : q <:+ t := (List.suffix_cons d q).trans ((hd ▸ skipSpace_suffix r).trans hs)
  split at h
  · cases h
    exact ⟨.array fun u hu => hb' u (List.mem_reverse.1 hu), hq⟩
  split at h
  · have hsq := (skipSpace_suffix q).trans hq
    exact (ih.items _ _ _ _ (Text.isScalar_of_suffix hsq ht) hb' h).imp id fun h => h.trans hsq
  · cases h

theorem readMembers_isDecoded {before : Members} (hb : MembersDecoded before)
    (h : readMembers (fuel + 1) before t = .ok (v, rest)) : v.IsDecoded true ∧ rest <:+ t := by
  cases t with
  | nil => cases h
  | cons c t =>
    rw [readMembers] at h
    split at h
    · split at h
      · cases h
      rename_i key r hkey
      obtain ⟨hc, ht'⟩ := Bool.and_eq_true_iff.1 ht
      obtain ⟨hk, hr⟩ := readString_unsplit ht' hkey
      split at h
      · cases h
      rename_i d q hd
      have hq : q <:+ t := (List.suffix_cons d q).trans ((hd ▸ skipSpace_suffix r).trans hr)
      split at h
      · have hsq := (skipSpace_suffix q).trans hq
        split at h
        · cases h
        rename_i w p hv
        obtain ⟨hw, hp⟩ := ih.value _ _ _ (Text.isScalar_of_suffix hsq ht') hv
        split at h
        · cases h
        rename_i e o he
        have ho : o <:+ c :: t := (List.suffix_cons e o).trans
          ((he ▸ skipSpace_suffix p).trans (hp.trans (hsq.trans (List.suffix_cons ..))))
        split at h
        · cases h
          exact ⟨(hb.insert hk hw).object, ho⟩
        split at h
        · have hso := (skipSpace_suffix o).trans ho
          exact (ih.members _ _ _ _ (Text.isScalar_of_suffix hso ht) (hb.insert hk hw) h).imp id fun h => h.trans hso
        · cases h
      · cases h
    · cases h

theorem readValue_isDecoded (h : readValue (fuel + 1) t = .ok (v, rest)) : v.IsDecoded true ∧ rest <:+ t := by
  cases t with
  | nil => cases h
  | cons c t =>
    obtain ⟨hc, ht'⟩ := Bool.and_eq_true_iff.1 ht
    have hcons {s : Text} (h : s <:+ t) : s <:+ c :: t := h.trans (List.suffix_cons ..)
    rw [readValue] at h
    split at h
    · split at h
      · cases h
      rename_i s r hs
      cases h
      obtain ⟨hu, hr⟩ := readString_unsplit ht' hs
      exact ⟨.text hu, hcons hr⟩
    split at h
    · split at h
      · cases h
      rename_i d r hd
      have hr : d :: r <:+ t := hd ▸ skipSpace_suffix t
      split at h
      · cases h
        exact ⟨membersDecoded_nil.object, hcons ((List.suffix_cons ..).trans hr)⟩
      · exact (ih.members _ _ _ _ (Text.isScalar_of_suffix hr ht') membersDecoded_nil h).imp id
          fun h => hcons (h.trans hr)
    split at h
    · split at h
      · cases h
      rename_i d r hd
      have hr : d :: r <:+ t := hd ▸ skipSpace_suffix t
      split at h
      · cases h
        exact ⟨.array fun _ h => absurd h List.not_mem_nil, hcons ((List.suffix_cons ..).trans hr)⟩
      · exact (ih.items _ _ _ _ (Text.isScalar_of_suffix hr ht') (fun _ h => absurd h List.not_mem_nil) h).imp id
          fun h => hcons (h.trans hr)
    split at h
    · rename_i found hw
      cases h
      exact readWord?_eq_some hw
    · split at h
      · cases h
      rename_i n r hn
      obtain ⟨hd, hr⟩ := numeral?_eq_some hn
      split at h
      · cases h
      rename_i w hw
      cases h
      exact ⟨toJson_isDecoded hd hw, hr⟩

omit ih ht

theorem readsDecoded (fuel : Nat) : ReadsDecoded fuel := by
  induction fuel with
  | zero =>
    refine ⟨fun _ _ _ _ h => ?_, fun _ _ _ _ _ _ h => ?_, fun _ _ _ _ _ _ h => ?_⟩
    · cases h
    · cases h
    · cases h
  | succ fuel ih =>
    exact ⟨fun _ _ _ ht => readValue_isDecoded ih ht, fun _ _ _ _ ht hb => readItems_isDecoded ih ht hb,
      fun _ _ _ _ ht hb => readMembers_isDecoded ih ht hb⟩

/-- Whatever is read from a text without surrogates is decoded. -/
theorem read_isDecoded (ht : t.isScalar) (h : read t = .ok v) : v.IsDecoded true := by
  have hgo (h : readAll.go t = .ok v) : v.IsDecoded true := by
    rw [readAll.go] at h
    split at h
    · cases h
    rename_i w r hw
    split at h
    · cases h
      exact ((readsDecoded _).value _ _ _ (Text.isScalar_of_suffix (skipSpace_suffix t) ht) hw).1
    · cases h
  unfold read at h
  split at h
  · rename_i w hw
    cases h
    unfold readAll at hw
    split at hw
    · split at hw
      · cases hw
      · exact hgo hw
    · exact hgo hw
  · cases h

end Values

end Json

end LspEndpoint
