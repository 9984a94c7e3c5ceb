import LspEndpoint.Proofs.Json.Acceptance

/-!
Where the reader stops. Beside the faults of syntax there is one more thing that stops it: an integer of too many
digits where a value is due. That is met exactly if the text up to there could be the beginning of a document.
-/
namespace LspEndpoint.Json

/-- The text breaks off where a value is due. -/
inductive Due : Symbol → Text → Prop
  | here : Due .value []
  | array {s t : Text} (spaces : IsSpaces s) (items : Due .items t) : Due .value (CodePoint.ofChar '[' :: (s ++ t))
  | object {s t : Text} (spaces : IsSpaces s) (members : Due .members t) :
      Due .value (CodePoint.ofChar '{' :: (s ++ t))
  | item {t : Text} (value : Due .value t) : Due .items t
  | items {v s s' t : Text} (value : Derives true .value v) (spaces : IsSpaces s) (spaces' : IsSpaces s')
      (rest : Due .items t) : Due .items (v ++ (s ++ CodePoint.ofChar ',' :: (s' ++ t)))
  | member {k s s' t : Text} (key : IsString k) (spaces : IsSpaces s) (spaces' : IsSpaces s') (value : Due .value t) :
      Due .members (k ++ (s ++ CodePoint.ofChar ':' :: (s' ++ t)))
  | members {k s s' v s'' q t : Text} (key : IsString k) (spaces : IsSpaces s) (spaces' : IsSpaces s')
      (value : Derives true .value v) (spaces'' : IsSpaces s'') (spacesNext : IsSpaces q) (rest : Due .members t) :
      Due .members
        (k ++ (s ++ CodePoint.ofChar ':' :: (s' ++ (v ++ (s'' ++ CodePoint.ofChar ',' :: (q ++ t))))))

/-- The number that the text begins with is an integer of too many digits. -/
def BeginsLong (t : Text) : Prop := ∃ n rest, numeral? t = some (n, rest) ∧ n.IsLong

/-- An integer of too many digits stands where a value is due. -/
def MeetsLong (t : Text) : Prop :=
  ∃ s before here : Text, IsSpaces s ∧ Due .value before ∧ BeginsLong here ∧ t = s ++ (before ++ here)

section Stops

variable {t here : Text}

theorem BeginsLong.starts (h : BeginsLong here) : Starts here := by
  obtain ⟨n, rest, hn, -⟩ := h
  obtain ⟨p, hp, rfl⟩ := exists_of_numeral? hn
  exact hp.starts.append rest

theorem BeginsLong.readValue (h : BeginsLong here) (fuel : Nat) :
    ∃ count, Json.readValue (fuel + 1) here = .error (.tooManyDigits count) := by
  obtain ⟨n, rest, hn, hlong⟩ := h
  obtain ⟨p, hp, rfl⟩ := exists_of_numeral? hn
  refine ⟨n.whole.length, ?_⟩
  rw [readValue_number hp hn]
  rcases n.toJson_cases with ⟨v, hv, -⟩ | ⟨-, he⟩
  · unfold Numeral.toJson at hv
    rw [hlong.fraction, hlong.exponent] at hv
    simp only [if_pos hlong.digits] at hv
    cases hv
  · rw [he]
    rfl

theorem Due.starts {symbol : Symbol} (h : Due symbol t) (hh : Starts here) : Starts (t ++ here) := by
  induction h with
  | here => exact hh
  | array _ _ _ => exact ⟨_, _, rfl, by decide, by decide, by decide, by decide⟩
  | object _ _ _ => exact ⟨_, _, rfl, by decide, by decide, by decide, by decide⟩
  | item _ ih => exact ih
  | items value _ _ _ _ =>
    have hv : ReadsValue true _ := value.reads
    exact (hv.starts.append _).append here
  | member key _ _ _ _ => exact (key.starts.append _).append here
  | members key _ _ _ _ _ _ _ => exact (key.starts.append _).append here

/-- Reading stops at the integer that stands where the value is due, or at one before. -/
def Stops (symbol : Symbol) (t here : Text) : Prop :=
  match symbol with
  | .value => ∀ fuel, 2 * t.length + 1 ≤ fuel → ∃ count, readValue fuel (t ++ here) = .error (.tooManyDigits count)
  | .items => ∀ fuel before, 2 * t.length + 2 ≤ fuel →
    ∃ count, readItems fuel before (t ++ here) = .error (.tooManyDigits count)
  | .members => ∀ fuel before, 2 * t.length + 2 ≤ fuel →
    ∃ count, readMembers fuel before (t ++ here) = .error (.tooManyDigits count)

theorem stops_array {s : Text} (hs : IsSpaces s) (ht : Starts (t ++ here)) (h : Stops .items t here) :
    Stops .value (CodePoint.ofChar '[' :: (s ++ t)) here := by
  intro fuel hf
  simp only [List.length_cons, List.length_append] at hf
  obtain ⟨k, rfl⟩ := exists_fuel hf
  obtain ⟨count, hr⟩ := h k [] (by omega)
  obtain ⟨c, u, hcu, hc, hb, -⟩ := ht
  refine ⟨count, ?_⟩
  rw [hcu] at hr
  rw [List.cons_append, readValue, if_neg bracket_ne.1, if_neg bracket_ne.2, if_pos rfl, List.append_assoc, hcu,
    hs.skipSpace hc]
  dsimp only
  rw [if_neg hb, hr]

theorem stops_object {s : Text} (hs : IsSpaces s) (ht : Starts (t ++ here)) (h : Stops .members t here) :
    Stops .value (CodePoint.ofChar '{' :: (s ++ t)) here := by
  intro fuel hf
  simp only [List.length_cons, List.length_append] at hf
  obtain ⟨k, rfl⟩ := exists_fuel hf
  obtain ⟨count, hr⟩ := h k [] (by omega)
  obtain ⟨c, u, hcu, hc, -, hb, -⟩ := ht
  refine ⟨count, ?_⟩
  rw [hcu] at hr
  rw [List.cons_append, readValue, if_neg brace_ne, if_pos rfl, List.append_assoc, hcu, hs.skipSpace hc]
  dsimp only
  rw [if_neg hb, hr]

theorem stops_item (h : Stops .value t here) : Stops .items t here := by
  intro fuel before hf
  obtain ⟨k, rfl⟩ := exists_fuel hf
  obtain ⟨count, hr⟩ := h k (by omega)
  exact ⟨count, by rw [readItems, hr]⟩

theorem stops_items {v s s' : Text} (hv : ReadsValue true v) (hs : IsSpaces s) (hs' : IsSpaces s')
    (ht : Starts (t ++ here)) (h : Stops .items t here) :
    Stops .items (v ++ (s ++ CodePoint.ofChar ',' :: (s' ++ t))) here := by
  have hne : CodePoint.ofChar ',' ≠ CodePoint.ofChar ']' := by decide
  obtain ⟨verdict, -, hreads⟩ := hv.reads
  intro fuel before hf
  simp only [List.length_append, List.length_cons] at hf
  obtain ⟨k, rfl⟩ := exists_fuel hf
  have hend := hs.endsNumber (c := CodePoint.ofChar ',') (.inl rfl) (s' ++ (t ++ here))
  simp only [List.append_assoc, List.cons_append]
  rw [readItems, hreads k _ (by omega) hend]
  cases verdict with
  | error count => exact ⟨count, rfl⟩
  | ok w =>
    obtain ⟨count, hr⟩ := h k (w :: before) (by omega)
    obtain ⟨c, u, hcu, hc, -⟩ := ht
    refine ⟨count, ?_⟩
    rw [hcu] at hr ⊢
    simp only [Verdict.reading, hs.skipSpace (c := CodePoint.ofChar ',') rfl, if_neg hne, if_true, hs'.skipSpace hc, hr]

theorem stops_member {k s s' : Text} (hk : IsString k) (hs : IsSpaces s) (hs' : IsSpaces s')
    (ht : Starts (t ++ here)) (h : Stops .value t here) :
    Stops .members (k ++ (s ++ CodePoint.ofChar ':' :: (s' ++ t))) here := by
  obtain ⟨u, key, rfl, hkey⟩ := hk.readChars
  intro fuel before hf
  simp only [List.length_append, List.length_cons] at hf
  obtain ⟨n, rfl⟩ := exists_fuel hf
  obtain ⟨count, hr⟩ := h n (by omega)
  obtain ⟨c, u, hcu, hc, -⟩ := ht
  refine ⟨count, ?_⟩
  simp only [List.append_assoc, List.cons_append]
  rw [readMembers, if_pos rfl, hkey]
  rw [hcu] at hr ⊢
  simp only [hs.skipSpace (c := CodePoint.ofChar ':') rfl, if_true, hs'.skipSpace hc, hr]

theorem stops_members {k s s' v s'' q : Text} (hk : IsString k) (hs : IsSpaces s) (hs' : IsSpaces s')
    (hv : ReadsValue true v) (hs'' : IsSpaces s'') (hq : IsSpaces q) (ht : Starts (t ++ here))
    (h : Stops .members t here) :
    Stops .members
      (k ++ (s ++ CodePoint.ofChar ':' :: (s' ++ (v ++ (s'' ++ CodePoint.ofChar ',' :: (q ++ t)))))) here := by
  have hne : CodePoint.ofChar ',' ≠ CodePoint.ofChar '}' := by decide
  obtain ⟨key, verdict, -, hreads⟩ := readMembers_cons hk hs hs' hv
  intro fuel before hf
  simp only [List.length_append, List.length_cons] at hf
  obtain ⟨n, rfl⟩ := exists_fuel hf
  have hend := hs''.endsNumber (c := CodePoint.ofChar ',') (.inl rfl) (q ++ (t ++ here))
  simp only [List.append_assoc, List.cons_append]
  rw [hreads n before _ (by omega) hend]
  cases verdict with
  | error count => exact ⟨count, rfl⟩
  | ok w =>
    obtain ⟨count, hr⟩ := h n (Entries.insert key w before) (by omega)
    obtain ⟨c, u, hcu, hc, -⟩ := ht
    refine ⟨count, ?_⟩
    rw [hcu] at hr ⊢
    simp only [hs''.skipSpace (c := CodePoint.ofChar ',') rfl, if_neg hne, if_true, hq.skipSpace hc, hr]

theorem Due.stops {symbol : Symbol} (h : Due symbol t) (hh : BeginsLong here) : Stops symbol t here := by
  induction h with
  | here =>
    intro fuel hf
    obtain ⟨k, rfl⟩ := exists_fuel hf
    exact hh.readValue k
  | array spaces items ih => exact stops_array spaces (items.starts hh.starts) ih
  | object spaces members ih => exact stops_object spaces (members.starts hh.starts) ih
  | item _ ih => exact stops_item ih
  | items value spaces spaces' rest ih => exact stops_items value.reads spaces spaces' (rest.starts hh.starts) ih
  | member key spaces spaces' value ih => exact stops_member key spaces spaces' (value.starts hh.starts) ih
  | members key spaces spaces' value spaces'' spacesNext rest ih =>
    exact stops_members key spaces spaces' value.reads spaces'' spacesNext (rest.starts hh.starts) ih

end Stops

section Explained

/-- What a reading up to some closing text tells of the text that it starts at. -/
def Explains (symbol : Symbol) (close t : Text) : Reading Json → Prop
  | .ok (_, rest) => ∃ p, Derives true symbol p ∧ t = p ++ (close ++ rest)
  | .error (.tooManyDigits _) => ∃ before here, Due symbol before ∧ BeginsLong here ∧ t = before ++ here
  | .error (.wrong ..) => True

/-- What stopped a reading stands no earlier than it starts. -/
theorem Explains.error {symbol symbol' : Symbol} {close close' t t' : Text} {e : Stuck}
    (h : Explains symbol close t (.error e))
    (hdue : ∀ before here, BeginsLong here → Due symbol before → t = before ++ here →
      ∃ before', Due symbol' before' ∧ t' = before' ++ here) : Explains symbol' close' t' (.error e) := by
  cases e with
  | wrong problem rest => trivial
  | tooManyDigits count =>
    obtain ⟨before, here, hb, hh, ht⟩ := h
    obtain ⟨before', hb', ht'⟩ := hdue before here hh hb ht
    exact ⟨before', here, hb', hh, ht'⟩

theorem readChars_ne_tooManyDigits {start read t : Text} {skip count : Nat} :
    readChars start read skip t ≠ .error (.tooManyDigits count) := by
  intro h
  induction t generalizing read skip with
  | nil => cases skip <;> cases h
  | cons c t ih =>
    cases skip with
    | succ skip => exact ih h
    | zero =>
      unfold readChars at h
      repeat' split at h
      all_goals first | exact ih h | cases h

/-- A string is read from its opening quote to its closing one. -/
theorem exists_of_readString {start t s rest : Text} (h : readChars start [] 0 t = .ok (s, rest)) :
    ∃ p, IsString p ∧ CodePoint.ofChar '"' :: t = p ++ rest := by
  obtain ⟨p, hp, rfl⟩ := exists_of_readChars h
  exact ⟨_, .mk hp, by simp⟩

/-- What the readers of one amount of fuel tell. -/
structure Explained (fuel : Nat) : Prop where
  value : ∀ t, Explains .value [] t (readValue fuel t)
  items : ∀ before t, Explains .items [CodePoint.ofChar ']'] t (readItems fuel before t)
  members : ∀ before t, Explains .members [CodePoint.ofChar '}'] t (readMembers fuel before t)

variable {fuel : Nat} (ih : Explained fuel)

theorem exists_of_readWord? {t rest : Text} {v : Json} (h : readWord? t = some (v, rest)) :
    ∃ p, Derives true .value p ∧ t = p ++ rest := by
  obtain ⟨w, hw, he⟩ := List.exists_of_findSome?_eq_some h
  obtain ⟨u, hu, he⟩ := Option.map_eq_some_iff.1 he
  cases he
  unfold afterWord? at hu
  split at hu
  · rename_i hprefix
    cases hu
    obtain ⟨u, hu⟩ := List.isPrefixOf_iff_prefix.1 hprefix
    refine ⟨w.1, ?_, ?_⟩
    · simp only [words, List.mem_cons, List.not_mem_nil, or_false] at hw
      rcases hw with rfl | rfl | rfl | rfl | rfl | rfl
      · exact .word (by simp)
      · exact .word (by simp)
      · exact .word (by simp)
      · exact .laxWord rfl (by simp)
      · exact .laxWord rfl (by simp)
      · exact .laxWord rfl (by simp)
    · have hlen : w.1.length = (Text.ofString w.1).length := by rw [Text.ofString, List.length_map, String.length]
      rw [hlen, ← hu, List.drop_left]
  · cases hu

theorem explains_number (t : Text) :
    Explains .value [] t (match numeral? t with
      | none => .error (.wrong .value t)
      | some (n, rest) => match n.toJson with
        | .error e => .error e
        | .ok v => .ok (v, rest)) := by
  cases hn : numeral? t with
  | none => trivial
  | some found =>
    obtain ⟨n, rest⟩ := found
    dsimp only
    rcases n.toJson_cases with ⟨v, hv, -⟩ | ⟨hlong, he⟩
    · obtain ⟨p, hp, rfl⟩ := exists_of_numeral? hn
      rw [hv]
      exact ⟨p, .number hp, rfl⟩
    · rw [he]
      exact ⟨[], t, .here, ⟨n, rest, hn, hlong⟩, rfl⟩

include ih

theorem explains_readValue (t : Text) : Explains .value [] t (readValue (fuel + 1) t) := by
  cases t with
  | nil => trivial
  | cons c t =>
    rw [readValue]
    obtain ⟨s, hs, ht⟩ := exists_of_skipSpace t
    split
    · rename_i hc
      cases hr : readChars (c :: t) [] 0 t with
      | error e =>
        cases e with
        | wrong problem rest => trivial
        | tooManyDigits count => exact absurd hr readChars_ne_tooManyDigits
      | ok found =>
        obtain ⟨p, hp, he⟩ := exists_of_readString hr
        exact ⟨p, .string hp, by rw [hc, he]; rfl⟩
    split
    · rename_i hc
      cases hd : skipSpace t with
      | nil => trivial
      | cons d r =>
        rw [hd] at ht
        dsimp only
        split
        · rename_i hclose
          exact ⟨_, .emptyObject hs, by rw [hc, ht, hclose]; simp⟩
        · have hm := ih.members [] (d :: r)
          cases hr : readMembers fuel [] (d :: r) with
          | error e =>
            rw [hr] at hm
            refine hm.error fun before here _ hb he => ⟨_, .object hs hb, ?_⟩
            rw [hc, ht, he, List.cons_append, List.append_assoc]
          | ok found =>
            rw [hr] at hm
            obtain ⟨p, hp, he⟩ := hm
            exact ⟨_, .object hs hp, by rw [hc, ht, he]; simp⟩
    split
    · rename_i hc
      cases hd : skipSpace t with
      | nil => trivial
      | cons d r =>
        rw [hd] at ht
        dsimp only
        split
        · rename_i hclose
          exact ⟨_, .emptyArray hs, by rw [hc, ht, hclose]; simp⟩
        · have hm := ih.items [] (d :: r)
          cases hr : readItems fuel [] (d :: r) with
          | error e =>
            rw [hr] at hm
            refine hm.error fun before here _ hb he => ⟨_, .array hs hb, ?_⟩
            rw [hc, ht, he, List.cons_append, List.append_assoc]
          | ok found =>
            rw [hr] at hm
            obtain ⟨p, hp, he⟩ := hm
            exact ⟨_, .array hs hp, by rw [hc, ht, he]; simp⟩
    · cases hw : readWord? (c :: t) with
      | some found =>
        obtain ⟨p, hp, he⟩ := exists_of_readWord? hw
        exact ⟨p, hp, he⟩
      | none => exact explains_number (c :: t)

theorem explains_readItems (before : List Json) (t : Text) :
    Explains .items [CodePoint.ofChar ']'] t (readItems (fuel + 1) before t) := by
  rw [readItems]
  have hv := ih.value t
  cases hr : readValue fuel t with
  | error e =>
    rw [hr] at hv
    exact hv.error fun before here _ hb he => ⟨before, .item hb, he⟩
  | ok found =>
    obtain ⟨v, rest⟩ := found
    rw [hr] at hv
    obtain ⟨p, hp, he⟩ := hv
    obtain ⟨s, hs, ht⟩ := exists_of_skipSpace rest
    dsimp only
    cases hd : skipSpace rest with
    | nil => trivial
    | cons d r =>
      rw [hd] at ht
      dsimp only
      split
      · rename_i hc
        exact ⟨_, .item hp hs, by rw [he, ht, hc]; simp⟩
      split
      · rename_i hc
        obtain ⟨s', hs', ht'⟩ := exists_of_skipSpace r
        have hm := ih.items (v :: before) (skipSpace r)
        cases hn : readItems fuel (v :: before) (skipSpace r) with
        | error e =>
          rw [hn] at hm
          refine hm.error fun before here _ hb hbe => ⟨_, .items hp hs hs' hb, ?_⟩
          rw [he, ht, hc, ht', hbe]
          simp
        | ok found =>
          rw [hn] at hm
          obtain ⟨q, hq, hqe⟩ := hm
          refine ⟨_, .items hp hs hs' hq, ?_⟩
          rw [he, ht, hc, ht', hqe]
          simp
      · trivial

/-- Behind a member stands the closing brace, or a comma and more members. -/
theorem explains_behindMember {k gap gap' p : Text} (hk : IsString k) (hgap : IsSpaces gap) (hgap' : IsSpaces gap')
    (hp : Derives true .value p) (members : Members) (rest : Text) :
    Explains .members [CodePoint.ofChar '}'] (k ++ (gap ++ CodePoint.ofChar ':' :: (gap' ++ (p ++ rest))))
      (match skipSpace rest with
        | [] => .error (.wrong .comma [])
        | e :: r =>
          if e = '}' then .ok (.object members, r)
          else if e = ',' then readMembers fuel members (skipSpace r)
          else .error (.wrong .comma (e :: r))) := by
  obtain ⟨s, hs, ht⟩ := exists_of_skipSpace rest
  cases he : skipSpace rest with
  | nil => trivial
  | cons e r =>
    rw [he] at ht
    dsimp only
    split
    · rename_i hc
      exact ⟨_, .member hk hgap hgap' hp hs, by rw [ht, hc]; simp⟩
    split
    · rename_i hc
      obtain ⟨s', hs', ht'⟩ := exists_of_skipSpace r
      have hm := ih.members members (skipSpace r)
      cases hn : readMembers fuel members (skipSpace r) with
      | error e =>
        rw [hn] at hm
        refine hm.error fun before here _ hb hbe => ⟨_, .members hk hgap hgap' hp hs hs' hb, ?_⟩
        rw [ht, hc, ht', hbe]
        simp
      | ok found =>
        rw [hn] at hm
        obtain ⟨q, hq, hqe⟩ := hm
        refine ⟨_, .members hk hgap hgap' hp hs hs' hq, ?_⟩
        rw [ht, hc, ht', hqe]
        simp
    · trivial

theorem explains_readMembers (before : Members) (t : Text) :
    Explains .members [CodePoint.ofChar '}'] t (readMembers (fuel + 1) before t) := by
  cases t with
  | nil => trivial
  | cons c t =>
    rw [readMembers]
    split
    case isFalse => trivial
    rename_i hquote
    cases hkey : readChars (c :: t) [] 0 t with
    | error e =>
      cases e with
      | wrong problem rest => trivial
      | tooManyDigits count => exact absurd hkey readChars_ne_tooManyDigits
    | ok found =>
      obtain ⟨key, afterKey⟩ := found
      obtain ⟨k, hk, hke⟩ := exists_of_readString hkey
      rw [hquote, hke]
      obtain ⟨s, hs, ht⟩ := exists_of_skipSpace afterKey
      dsimp only
      cases hd : skipSpace afterKey with
      | nil => trivial
      | cons d afterColon =>
        rw [hd] at ht
        dsimp only
        split
        case isFalse => trivial
        rename_i hcolon
        obtain ⟨s', hs', ht'⟩ := exists_of_skipSpace afterColon
        have hv := ih.value (skipSpace afterColon)
        cases hr : readValue fuel (skipSpace afterColon) with
        | error e =>
          rw [hr] at hv
          refine hv.error fun before here _ hb hbe => ⟨_, .member hk hs hs' hb, ?_⟩
          rw [ht, hcolon, ht', hbe]
          simp
        | ok found =>
          obtain ⟨v, rest⟩ := found
          rw [hr] at hv
          obtain ⟨p, hp, hpe⟩ := hv
          rw [ht, hcolon, ht', hpe, List.nil_append]
          exact explains_behindMember ih hk hs hs' hp (Entries.insert key v before) rest

omit ih in
theorem explained (fuel : Nat) : Explained fuel := by
  induction fuel with
  | zero => exact ⟨fun _ => trivial, fun _ _ => trivial, fun _ _ => trivial⟩
  | succ fuel ih => exact ⟨explains_readValue ih, explains_readItems ih, explains_readMembers ih⟩

end Explained

theorem tooManyDigits_of_read {t : Text} {count : Nat} (h : read t = .error (.tooManyDigits count)) :
    readValue (2 * t.length + 2) (skipSpace t) = .error (.tooManyDigits count) := by
  have hstuck {e : Stuck} (h : e.toError t = .tooManyDigits count) : e = .tooManyDigits count := by
    cases e with
    | wrong problem rest => cases h
    | tooManyDigits n => cases h; rfl
  have hgo {e : Stuck} (h : readAll.go t = .error e) (he : e = .tooManyDigits count) :
      readValue (2 * t.length + 2) (skipSpace t) = .error (.tooManyDigits count) := by
    rw [readAll.go] at h
    split at h
    · rename_i hr
      rw [hr, Except.error.inj h, he]
    · split at h
      · cases h
      · rw [← Except.error.inj h] at he
        cases he
  unfold read at h
  split at h
  · cases h
  · rename_i e hr
    have he := hstuck (Except.error.inj h)
    unfold readAll at hr
    split at hr
    · split at hr
      · rw [← Except.error.inj hr] at he
        cases he
      · exact hgo hr he
    · exact hgo hr he

/-- Reading a document stops at an integer of too many digits exactly if one stands where a value is due. -/
theorem exists_tooManyDigits_iff (t : Text) : (∃ count, read t = .error (.tooManyDigits count)) ↔ MeetsLong t := by
  constructor
  · rintro ⟨count, h⟩
    obtain ⟨s, hs, ht⟩ := exists_of_skipSpace t
    have hv := (explained (2 * t.length + 2)).value (skipSpace t)
    rw [tooManyDigits_of_read h] at hv
    obtain ⟨before, here, hb, hh, he⟩ := hv
    exact ⟨s, before, here, hs, hb, hh, he ▸ ht⟩
  · rintro ⟨s, before, here, hs, hb, hh, rfl⟩
    have hstart := hb.starts hh.starts
    have hlen : 2 * before.length + 1 ≤ 2 * (s ++ (before ++ here)).length + 2 := by
      simp only [List.length_append]
      omega
    obtain ⟨count, hr⟩ := hb.stops hh _ hlen
    obtain ⟨c, u, hcu, hc, -⟩ := id hstart
    have hgo : readAll.go (s ++ (before ++ here)) = .error (.tooManyDigits count) := by
      rw [readAll.go, hcu, hs.skipSpace hc, ← hcu, hr]
    exact ⟨count, by rw [read, readAll_eq_go hs hstart, hgo]; rfl⟩

end LspEndpoint.Json
