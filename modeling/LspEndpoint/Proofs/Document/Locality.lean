import LspEndpoint.Proofs.Document.Address
import LspEndpoint.Proofs.Document.Atomicity

/-!
Edits are local. A position that stands before an edit is found at the same index after it, whatever is put in and
however much is taken out: lines are counted anew, but only from the edit on. So changes that are meant for one text
can be applied one after the other from its back to its front.
-/
namespace LspEndpoint.Text

/-- Where a position is found hangs on the text as far as the code point at its index. -/
theorem index_append_congr {a u : Text} {p : Position} (h : index (a ++ u) p < a.length) (v : Text) :
    index (a ++ v) p = index (a ++ u) p := by
  induction a generalizing p with
  | nil => simp at h
  | cons c a ih =>
    simp only [List.cons_append, List.length_cons] at h ⊢
    obtain ⟨_ | line, character⟩ := p
    · simp only [index_cons_first] at h ⊢
      split
      · rfl
      · rename_i hn
        rw [if_neg hn] at h
        split
        · rfl
        · rename_i hb
          rw [if_neg hb] at h
          exact congrArg (· + 1) (ih (by omega))
    · rw [index_cons_succ] at h ⊢
      -- The position stands behind the code point in front, so there is another one before the edit.
      obtain _ | ⟨d, a⟩ := a
      · simp at h
      · have he (w : Text) : c.endsBreak (d :: a ++ w) = c.endsBreak (d :: a) := rfl
        rw [index_cons_succ]
        rw [he] at h ⊢
        rw [he]
        exact congrArg (· + 1) (ih (by omega))

/-- Every position that is found before the index in one text is found there in the other one, too. -/
def AgreesBefore (t u : Text) (n : Nat) : Prop := ∀ p, t.index p < n → u.index p = t.index p

theorem agreesBefore_splice {t : Text} {start : Nat} (h : start ≤ t.length) (stop : Nat) (s : Text) :
    t.AgreesBefore (t.splice start stop s) start := by
  intro p hp
  have hl : (t.take start).length = start := by rw [List.length_take, Nat.min_eq_left h]
  have ht : t.take start ++ t.drop start = t := List.take_append_drop start t
  rw [splice, List.append_assoc, index_append_congr (u := t.drop start) (by rw [ht, hl]; exact hp), ht]

/-- A change at the place in one text that it is meant for, applied to another text. -/
def editedAt (t u : Text) (change : ContentChange) : Text :=
  match change.range with
  | none => change.text
  | some r => u.splice (t.index r.start) (max (t.index r.start) (t.index r.stop)) change.text

/-- Changes to parts of a text before that index, each of them before the one that comes before it. -/
def IsBackward (t : Text) : Nat → List ContentChange → Prop
  | _, [] => True
  | n, change :: rest => ∃ r, change.range = some r ∧ t.index r.start < n ∧ t.index r.stop < n ∧
      IsBackward t (t.index r.start) rest

/-- In a text that agrees before the index, a change before it is applied where it was meant. -/
theorem edited_of_agreesBefore {t u : Text} {n : Nat} (h : t.AgreesBefore u n) {change : ContentChange} {r : Range}
    (hr : change.range = some r) (hstart : t.index r.start < n) (hstop : t.index r.stop < n) :
    u.edited change = t.editedAt u change ∧ t.AgreesBefore (t.editedAt u change) (t.index r.start) := by
  have hus := h r.start hstart
  simp only [edited, editedAt, hr, hus, h r.stop hstop, true_and]
  intro p hp
  have hup := h p (Nat.lt_trans hp hstart)
  have hle : t.index r.start ≤ u.length := hus ▸ index_le_length u r.start
  rw [← hup]
  exact agreesBefore_splice hle _ _ p (by rwa [hup])

theorem foldl_edited_of_isBackward {t u : Text} {n : Nat} (h : t.AgreesBefore u n) {changes : List ContentChange}
    (hb : t.IsBackward n changes) : changes.foldl edited u = changes.foldl t.editedAt u := by
  induction changes generalizing u n with
  | nil => rfl
  | cons change rest ih =>
    obtain ⟨r, hr, hstart, hstop, hrest⟩ := hb
    obtain ⟨he, hagrees⟩ := edited_of_agreesBefore h hr hstart hstop
    rw [List.foldl_cons, List.foldl_cons, he]
    exact ih hagrees hrest

/-- Changes that are meant for one text and come from its back to its front are all applied where they were meant. -/
theorem applyChanges_of_isBackward {t : Text} {changes : List ContentChange} (hf : t.FindsAll changes) {n : Nat}
    (hb : t.IsBackward n changes) : t.applyChanges changes = (changes.foldl t.editedAt t, none) := by
  rw [applyChanges_of_findsAll hf, foldl_edited_of_isBackward (fun _ _ => rfl) hb]

theorem splice_splice {t : Text} {start stop start' stop' : Nat} (h : start' ≤ stop') (h' : stop' ≤ start)
    (hl : start ≤ t.length) (s s' : Text) :
    (t.splice start stop s).splice start' stop' s' =
      t.take start' ++ s' ++ (t.take start).drop stop' ++ s ++ t.drop stop := by
  have hlen : (t.take start).length = start := by rw [List.length_take, Nat.min_eq_left hl]
  have htake : (t.splice start stop s).take start' = t.take start' := by
    rw [splice, List.append_assoc, List.take_append_of_le_length (by omega), List.take_take,
      Nat.min_eq_left (Nat.le_trans h h')]
  have hdrop : (t.splice start stop s).drop stop' = (t.take start).drop stop' ++ s ++ t.drop stop := by
    rw [splice, List.append_assoc, List.drop_append_of_le_length (by omega), List.append_assoc]
  rw [splice.eq_1 (t.splice start stop s), htake, hdrop]
  simp only [List.append_assoc]

/-- An edit of a text leaves every position before it where it was, whatever the edit is; and a second edit, which was
meant for the same text and stands before the first, can be applied after it as if both were made at once. -/
theorem applyChange_isLocal {t s : Text} (ht : t.isScalar) (hs : s.isScalar) (r : Range) :
    ∃ start stop t', t.offsetAt r.start = .ok start ∧ t.offsetAt r.stop = .ok stop ∧
      t.applyChange ⟨s, some r⟩ = .ok t' ∧
      (∀ p i, t.offsetAt p = .ok i → i < start → t'.offsetAt p = .ok i) ∧
      ∀ s' r' start' stop', t.offsetAt r'.start = .ok start' → t.offsetAt r'.stop = .ok stop' →
        start' < start → stop' < start →
        t.applyChanges [⟨s, some r⟩, ⟨s', some r'⟩] =
          (t.take start' ++ s' ++ (t.take start).drop (max start' stop') ++ s ++ t.drop (max start stop), none) := by
  have hfind (p : Position) : t.offsetAt p = .ok (t.index p) := offsetAt_of_not_hides (not_hides_of_isScalar ht p)
  have hle := index_le_length t r.start
  have ht' := isScalar_splice ht hs (t.index r.start) (max (t.index r.start) (t.index r.stop))
  refine ⟨_, _, _, hfind r.start, hfind r.stop, applyChange_of_isScalar ht s r, ?_, ?_⟩
  · intro p i hp hi
    rw [hfind, Except.ok.injEq] at hp
    subst hp
    rw [offsetAt_of_not_hides (not_hides_of_isScalar ht' p), agreesBefore_splice hle _ s p hi]
  · intro s' r' start' stop' hstart hstop hlt hlt'
    rw [hfind, Except.ok.injEq] at hstart hstop
    subst hstart hstop
    have hf : t.FindsAll [⟨s, some r⟩, ⟨s', some r'⟩] :=
      ⟨fun _ _ => ⟨not_hides_of_isScalar ht _, not_hides_of_isScalar ht _⟩,
        fun _ _ => ⟨not_hides_of_isScalar ht' _, not_hides_of_isScalar ht' _⟩, trivial⟩
    have hb : t.IsBackward (max (t.index r.start) (t.index r.stop) + 1) [⟨s, some r⟩, ⟨s', some r'⟩] :=
      ⟨r, rfl, by omega, by omega, r', rfl, hlt, hlt', trivial⟩
    rw [applyChanges_of_isBackward hf hb]
    exact congrArg (·, none) (splice_splice (Nat.le_max_left ..) (by omega) hle s s')

/-- Two lines, the first of which ends with a carriage return. -/
def returnText : Text := "ab\rcd"

/-- A line feed is put behind the carriage return, so that the two become a pair; the end of the first line stays where
it was. -/
theorem applyChange_isLocal_returnText :
    returnText.isScalar ∧ Text.isScalar "\n" ∧
      (∃ t', returnText.applyChange ⟨"\n", some ⟨⟨1, 0⟩, ⟨1, 1⟩⟩⟩ = .ok t' ∧ t'.offsetAt ⟨0, 9⟩ = .ok 2) ∧
      returnText.applyChanges [⟨"\n", some ⟨⟨1, 0⟩, ⟨1, 1⟩⟩⟩, ⟨"x", some ⟨⟨0, 1⟩, ⟨0, 9⟩⟩⟩] =
        (Text.ofString "ax\r\nd", none) := by
  have ht : returnText.isScalar := by decide
  have hs : Text.isScalar "\n" := by decide
  obtain ⟨start, stop, t', hstart, hstop, hok, hbefore, hboth⟩ :=
    applyChange_isLocal ht hs ⟨⟨1, 0⟩, ⟨1, 1⟩⟩
  obtain rfl : 3 = start := Except.ok.inj hstart
  obtain rfl : 4 = stop := Except.ok.inj hstop
  exact ⟨ht, hs, ⟨t', hok, hbefore ⟨0, 9⟩ 2 rfl (by decide)⟩,
    hboth "x" ⟨⟨0, 1⟩, ⟨0, 9⟩⟩ 1 2 rfl rfl (by decide) (by decide)⟩

end LspEndpoint.Text
