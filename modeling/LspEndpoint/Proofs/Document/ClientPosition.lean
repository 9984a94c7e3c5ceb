import LspEndpoint.Proofs.Document.Index
import LspEndpoint.Proofs.Text.Ruling

/-!
Positions as a client computes them. For a client a line ends at a line feed, or at a carriage return
that no line feed follows, and nowhere else. The server finds the position of an index at that index
unless a line break that is none for a client stands before it, with at least one more code point between;
then it finds a smaller index. So an edit of a client is applied where the client meant it exactly if no
such line break stands that far before its end.
-/
namespace LspEndpoint

theorem Position.exists_eq_succ {p : Position} (h : p.line ≠ 0) :
    ∃ line, p = ⟨line + 1, p.character⟩ := by
  obtain ⟨line, character⟩ := p
  obtain ⟨line, rfl⟩ := Nat.exists_eq_succ_of_ne_zero h
  exact ⟨line, rfl⟩

namespace CodePoint

/-- A line break that ends no line for a client. -/
def isForeignBreak (c : CodePoint) : Bool := c.isLineBreak && !(c.isReturn || c.isFeed)

theorem isForeignBreak_iff {c : CodePoint} :
    c.isForeignBreak ↔ c.isLineBreak ∧ ¬ (c.isReturn || c.isFeed) := by
  simp [isForeignBreak]

end CodePoint

namespace Text

/-- The code point at an index is the last one of a line terminator. -/
def terminatesAt (t : Text) (k : Nat) : Bool :=
  t[k]?.any CodePoint.isFeed || (t[k]?.any CodePoint.isReturn && !t[k + 1]?.any CodePoint.isFeed)

/-- The line of an index: how many line terminators end at or before it. -/
def lineAt (t : Text) (i : Nat) : Nat := (List.range i).countP t.terminatesAt

/-- The start of the line of an index: the end of the last line terminator that ends at or before it. -/
def lineStart (t : Text) : Nat → Nat
  | 0 => 0
  | i + 1 => if t.terminatesAt i then i + 1 else lineStart t i

/-- The position of an index, its character counted in code units from the start of its line. -/
def positionAt (t : Text) (i : Nat) : Position :=
  ⟨t.lineAt i, Text.units ((t.take i).drop (t.lineStart i))⟩

/-- The index lies between a carriage return and a line feed. -/
def splitsPair (t : Text) : Nat → Bool
  | 0 => false
  | k + 1 => t[k]?.any CodePoint.isReturn && t[k + 1]?.any CodePoint.isFeed

/-! ### Positions, one code point at a time -/

theorem terminatesAt_cons_zero (c : CodePoint) (t : Text) :
    terminatesAt (c :: t) 0 = (c.isFeed || (c.isReturn && !t.head?.any CodePoint.isFeed)) := by
  simp [terminatesAt, List.head?_eq_getElem?]

theorem terminatesAt_cons_succ (c : CodePoint) (t : Text) (k : Nat) :
    terminatesAt (c :: t) (k + 1) = t.terminatesAt k := by
  simp [terminatesAt]

/-- The line breaks of the server are the line terminators and the foreign ones. -/
theorem endsBreak_eq (c : CodePoint) (t : Text) :
    c.endsBreak t = (terminatesAt (c :: t) 0 || c.isForeignBreak) := by
  rw [terminatesAt_cons_zero, CodePoint.endsBreak, CodePoint.isForeignBreak]
  by_cases hf : c.isFeed
  · simp [hf, CodePoint.isLineBreak_of_isFeed hf, CodePoint.not_isReturn_of_isFeed hf]
  · by_cases hr : c.isReturn
    · simp [hf, hr, CodePoint.isLineBreak_of_isReturn hr]
    · simp [hf, hr]

theorem terminatesAt_cons (c : CodePoint) (t : Text) :
    (fun k => terminatesAt (c :: t) (k + 1)) = t.terminatesAt :=
  funext (terminatesAt_cons_succ c t)

@[simp] theorem lineAt_zero (t : Text) : t.lineAt 0 = 0 := rfl

theorem lineAt_succ (t : Text) (i : Nat) :
    t.lineAt (i + 1) = t.lineAt i + if t.terminatesAt i then 1 else 0 :=
  endsBefore_succ t.terminatesAt i

theorem lineAt_cons (c : CodePoint) (t : Text) (i : Nat) :
    lineAt (c :: t) (i + 1) = t.lineAt i + if terminatesAt (c :: t) 0 then 1 else 0 := by
  have h := endsBefore_cons (terminatesAt (c :: t)) i
  rwa [terminatesAt_cons] at h

theorem lineAt_nil (i : Nat) : lineAt [] i = 0 := by
  induction i with
  | zero => rfl
  | succ i ih => simp [lineAt_succ, ih, terminatesAt]

theorem lineStart_eq (t : Text) (i : Nat) : t.lineStart i = behindEnd t.terminatesAt i := by
  induction i with
  | zero => rfl
  | succ i ih => rw [lineStart, behindEnd, ih]

/-- For a client a text is ruled by its line terminators. -/
theorem positionAt_eq (t : Text) (i : Nat) : t.positionAt i = ruledAt t.terminatesAt t i := by
  rw [positionAt, lineStart_eq]
  rfl

theorem positionAt_zero (t : Text) : t.positionAt 0 = ⟨0, 0⟩ := by
  rw [positionAt_eq, ruledAt_zero]

/-- A terminator in front adds a line. Any other code point in front adds its units to the character if
the index is in the first line, and else nothing. -/
theorem positionAt_cons (c : CodePoint) (t : Text) (i : Nat) :
    positionAt (c :: t) (i + 1) =
      if terminatesAt (c :: t) 0 then ⟨(t.positionAt i).line + 1, (t.positionAt i).character⟩
      else if (t.positionAt i).line = 0 then ⟨0, c.units + (t.positionAt i).character⟩
      else t.positionAt i := by
  simp only [positionAt_eq, ruledAt_cons, terminatesAt_cons]

/-! ### The index of a client's position -/

theorem index_cons_zero (c : CodePoint) (t : Text) (character : Nat) :
    index (c :: t) ⟨0, character⟩ =
      if c.isReturn || c.isFeed then 0
      else if c.isLineBreak then reach character [c]
      else reach character (c :: t.addressable) := by
  rw [index_zero, addressable_cons]
  split
  · simp
  · split <;> rfl

theorem not_terminatesAt_of_not_newline {c : CodePoint} (h : ¬ (c.isReturn || c.isFeed)) (t : Text) :
    ¬ terminatesAt (c :: t) 0 := by
  rw [terminatesAt_cons_zero]
  simp_all

/-- A position in an earlier line than that of an index is found before the index. -/
theorem index_lt_of_line_lt {t : Text} {i line : Nat} (h : line < t.lineAt i) (character : Nat) :
    t.index ⟨line, character⟩ < i := by
  induction t generalizing i line character with
  | nil => simp [lineAt_nil] at h
  | cons c t ih =>
    cases i with
    | zero => simp at h
    | succ i =>
      rw [lineAt_cons] at h
      cases line with
      | zero =>
        rw [index_cons_zero]
        by_cases hn : c.isReturn || c.isFeed
        · simp [hn]
        · rw [if_neg hn]
          rw [if_neg (not_terminatesAt_of_not_newline hn t), Nat.add_zero] at h
          by_cases hb : c.isLineBreak
          · rw [if_pos hb]
            have hi : i ≠ 0 := by
              rintro rfl
              simp at h
            have hr := reach_le_length character [c]
            simp only [List.length_singleton] at hr
            omega
          · rw [if_neg hb]
            have hr := reach_cons_le character c (addressable t)
            have hl := ih h (character - c.units)
            rw [index_zero] at hl
            omega
      | succ line =>
        rw [index_cons_succ, endsBreak_eq]
        refine Nat.succ_lt_succ (ih ?_ character)
        by_cases ht : terminatesAt (c :: t) 0
        · simp only [ht, if_true, Bool.true_or] at h ⊢
          omega
        · simp only [ht, Bool.false_eq_true, if_false, Bool.false_or] at h ⊢
          split <;> omega

theorem lineAt_ne_zero_of_isFeed {d : CodePoint} (h : d.isFeed) (u : Text) {i : Nat} (hi : i ≠ 0) :
    lineAt (d :: u) i ≠ 0 := by
  obtain ⟨i, rfl⟩ := Nat.exists_eq_succ_of_ne_zero hi
  simp [lineAt_cons, terminatesAt_cons_zero, h]

theorem splitsPair_cons_succ (c : CodePoint) (t : Text) (i : Nat) :
    splitsPair (c :: t) (i + 2) = t.splitsPair (i + 1) := by
  simp [splitsPair]

/-- Between the two halves of a pair no position is looked up, so a carriage return that ends no line is
followed by an index in a later line. -/
theorem not_newline_of_line_eq_zero {c : CodePoint} {t : Text} {i : Nat}
    (hs : ¬ splitsPair (c :: t) (i + 1)) (ht : ¬ terminatesAt (c :: t) 0) (hl : t.lineAt i = 0) :
    ¬ (c.isReturn || c.isFeed) := by
  rw [terminatesAt_cons_zero] at ht
  intro hn
  have hr : c.isReturn := by simp_all
  cases t with
  | nil => simp_all
  | cons d u =>
    have hd : d.isFeed := by simp_all
    cases i with
    | zero => simp [splitsPair, hr, hd] at hs
    | succ i => exact lineAt_ne_zero_of_isFeed hd u (Nat.succ_ne_zero i) hl

/-- Behind a code point that is no foreign line break an index and its position move on together. -/
theorem index_positionAt_cons {c : CodePoint} {t : Text} {i : Nat} (hf : c.isForeignBreak = false)
    (hs : ¬ splitsPair (c :: t) (i + 1)) :
    index (c :: t) (positionAt (c :: t) (i + 1)) = t.index (t.positionAt i) + 1 := by
  have he : c.endsBreak t = terminatesAt (c :: t) 0 := by rw [endsBreak_eq, hf, Bool.or_false]
  rw [positionAt_cons]
  by_cases ht : terminatesAt (c :: t) 0
  · rw [if_pos ht, index_cons_succ, he, if_pos ht]
  · rw [if_neg ht]
    by_cases hl : (t.positionAt i).line = 0
    · have hn := not_newline_of_line_eq_zero hs ht hl
      have hb : ¬ c.isLineBreak := by
        intro hb
        simp [CodePoint.isForeignBreak, hb, hn] at hf
      rw [if_pos hl, index_cons_zero, if_neg hn, if_neg hb, reach_add_units, ← index_zero, ← hl]
    · obtain ⟨line, hp⟩ := Position.exists_eq_succ hl
      rw [if_neg hl, hp, index_cons_succ, he, if_neg ht]

/-- The server finds the position of an index at that index, if the foreign line breaks before it are
none but the very last code point. -/
theorem index_positionAt {t : Text} {i : Nat} (hi : i ≤ t.length) (hs : ¬ t.splitsPair i)
    (hf : ∀ c ∈ t.take (i - 1), c.isForeignBreak = false) : t.index (t.positionAt i) = i := by
  induction t generalizing i with
  | nil => simp_all
  | cons c t ih =>
    cases i with
    | zero => rw [positionAt_zero, index_start]
    | succ i =>
      cases i with
      | zero =>
        by_cases hc : c.isForeignBreak
        · obtain ⟨hb, hn⟩ := CodePoint.isForeignBreak_iff.1 hc
          rw [positionAt_cons, if_neg (not_terminatesAt_of_not_newline hn t), positionAt_zero,
            if_pos rfl, index_cons_zero, if_neg hn, if_pos hb, reach_add_units, reach_nil]
        · rw [index_positionAt_cons (by simpa using hc) hs, positionAt_zero, index_start]
      | succ i =>
        have hc : c.isForeignBreak = false := hf c (by simp)
        rw [splitsPair_cons_succ] at hs
        rw [index_positionAt_cons hc (by rwa [splitsPair_cons_succ]), ih (by simpa using hi) hs]
        exact fun d hd => hf d (by simpa using .inr hd)

/-- With any other foreign line break before it the server finds the position of an index too early. -/
theorem index_positionAt_lt {t : Text} {i : Nat} (hs : ¬ t.splitsPair i) {b : CodePoint}
    (hm : b ∈ t.take (i - 1)) (hb : b.isForeignBreak) : t.index (t.positionAt i) < i := by
  induction t generalizing i with
  | nil => simp at hm
  | cons c t ih =>
    obtain _ | _ | i := i
    · simp at hm
    · simp at hm
    · rw [splitsPair_cons_succ] at hs
      by_cases hc : c.isForeignBreak
      · obtain ⟨hl, hn⟩ := CodePoint.isForeignBreak_iff.1 hc
        rw [positionAt_cons, if_neg (not_terminatesAt_of_not_newline hn t)]
        by_cases h0 : (positionAt t (i + 1)).line = 0
        · have hr := reach_le_length (c.units + (positionAt t (i + 1)).character) [c]
          rw [List.length_singleton] at hr
          rw [if_pos h0, index_cons_zero, if_neg hn, if_pos hl]
          omega
        · obtain ⟨line, hp⟩ := Position.exists_eq_succ h0
          have he : c.endsBreak t := by rw [endsBreak_eq, hc, Bool.or_true]
          have hline : line < lineAt t (i + 1) :=
            Nat.lt_of_lt_of_eq (Nat.lt_succ_self line) (congrArg Position.line hp).symm
          rw [if_neg h0, hp, index_cons_succ, if_pos he]
          exact Nat.succ_lt_succ (index_lt_of_line_lt hline _)
      · have hbc : b ≠ c := fun h => hc (h ▸ hb)
        have hm' : b ∈ t.take i := by simpa [hbc] using hm
        rw [index_positionAt_cons (by simpa using hc) (by rwa [splitsPair_cons_succ])]
        exact Nat.succ_lt_succ (ih hs hm')

theorem index_positionAt_le {t : Text} {i : Nat} (hi : i ≤ t.length) (hs : ¬ t.splitsPair i) :
    t.index (t.positionAt i) ≤ i := by
  by_cases h : ∀ c ∈ t.take (i - 1), c.isForeignBreak = false
  · exact Nat.le_of_eq (index_positionAt hi hs h)
  · simp only [Classical.not_forall, Bool.not_eq_false] at h
    obtain ⟨b, hm, hb⟩ := h
    exact Nat.le_of_lt (index_positionAt_lt hs hm hb)

/-- What is put in tells where: a replacement stands at one index only. -/
theorem eq_of_splice_eq {t : Text} {a i e j : Nat} (ha : a ≤ i) (hi : i ≤ t.length)
    (h : ∀ s : Text, s.isScalar → t.splice a e s = t.splice i j s) : a = i := by
  refine Nat.le_antisymm ha (Nat.le_of_not_lt fun hlt => ?_)
  have hat (x : CodePoint) (hx : x.isScalar) : some x = t[a]? := by
    have hs := congrArg (·[a]?) (h [x] (by simpa [isScalar] using hx))
    simpa [splice, List.getElem?_append, hlt, Nat.lt_of_lt_of_le hlt hi, List.getElem?_take,
      Nat.min_eq_left (Nat.le_trans ha hi), Nat.min_eq_left hi] using hs
  have hx := (hat 'x' (by decide)).trans (hat 'y' (by decide)).symm
  exact absurd hx (by decide)

/-- The server applies an edit where the client meant it, whatever the replacement is, exactly if before
the end of the edited range, its last code point not counted, there is no foreign line break. -/
theorem applyChange_positionAt_iff {t : Text} (ht : t.isScalar) {i j : Nat} (hij : i ≤ j)
    (hj : j ≤ t.length) (hi : ¬ t.splitsPair i) (hs : ¬ t.splitsPair j) :
    (∀ s : Text, s.isScalar →
      t.applyChange ⟨s, some ⟨t.positionAt i, t.positionAt j⟩⟩ = .ok (t.take i ++ s ++ t.drop j)) ↔
      ∀ c ∈ t.take (j - 1), c.isForeignBreak = false := by
  simp only [applyChange_of_isScalar ht, Except.ok.injEq]
  constructor
  · intro h
    have hil := Nat.le_trans hij hj
    have ha := eq_of_splice_eq (index_positionAt_le hil hi) hil h
    have he := congrArg List.length (h [] rfl)
    simp only [splice, List.append_nil, List.length_append, List.length_take, List.length_drop, ha] at he
    intro c hc
    cases hb : c.isForeignBreak with
    | false => rfl
    | true =>
      have hlt := index_positionAt_lt hs hc hb
      -- What follows the range has its length, so a range whose end is found early is empty.
      have hje : i = j := by omega
      rw [hje] at ha
      omega
  · intro h s _
    have hf : ∀ c ∈ t.take (i - 1), c.isForeignBreak = false := fun c hc =>
      h c (List.take_subset_take_left t (by omega) hc)
    rw [index_positionAt (Nat.le_trans hij hj) hi hf, index_positionAt hj hs h, Nat.max_eq_right hij,
      splice]

/-- A text with a pair, a supplementary code point and a foreign line break. -/
def mixedText : Text := [0x61, 0x0D, 0x0A, 0x1F600, 0x62, 0x2028, 0x63].map CodePoint.ofNat

/-- The foreign line break is the last code point of the range. -/
theorem applyChange_positionAt_mixedText :
    mixedText.isScalar ∧ 3 ≤ 6 ∧ 6 ≤ mixedText.length ∧ ¬ mixedText.splitsPair 3 ∧
      ¬ mixedText.splitsPair 6 ∧
      ((∀ s : Text, s.isScalar →
        mixedText.applyChange ⟨s, some ⟨mixedText.positionAt 3, mixedText.positionAt 6⟩⟩ =
          .ok (mixedText.take 3 ++ s ++ mixedText.drop 6)) ↔
        ∀ c ∈ mixedText.take 5, c.isForeignBreak = false) :=
  ⟨by decide, by decide, by decide, by decide, by decide,
    applyChange_positionAt_iff (by decide) (by decide) (by decide) (by decide) (by decide)⟩

/-- A text with a line separator inside what is one line for a client. -/
def separatedText : Text := [0x61, 0x2028, 0x62].map CodePoint.ofNat

/-- A client's insertion at the end of that text is applied right behind the separator. -/
theorem applyChange_separatedText :
    separatedText.isScalar ∧ ¬ separatedText.splitsPair 3 ∧ separatedText.positionAt 3 = ⟨0, 3⟩ ∧
      separatedText.applyChange
          ⟨[.ofChar 'x'], some ⟨separatedText.positionAt 3, separatedText.positionAt 3⟩⟩ =
        .ok (separatedText.take 2 ++ [.ofChar 'x'] ++ separatedText.drop 2) ∧
      separatedText.applyChange
          ⟨[.ofChar 'x'], some ⟨separatedText.positionAt 3, separatedText.positionAt 3⟩⟩ ≠
        .ok (separatedText.take 3 ++ [.ofChar 'x'] ++ separatedText.drop 3) := by
  have h : separatedText.applyChange
      ⟨[.ofChar 'x'], some ⟨separatedText.positionAt 3, separatedText.positionAt 3⟩⟩ =
        .ok (separatedText.take 2 ++ [.ofChar 'x'] ++ separatedText.drop 2) := rfl
  refine ⟨by decide, by decide, by decide, h, fun hn => ?_⟩
  exact absurd (Except.ok.inj (h.symm.trans hn)) (by decide)

end Text

end LspEndpoint
