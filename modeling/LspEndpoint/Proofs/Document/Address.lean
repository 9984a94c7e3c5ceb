import LspEndpoint.Proofs.Document.ClientPosition
import LspEndpoint.Proofs.Text.Ruling

/-!
Positions and the indexes that they stand for. Every position of a text without lone surrogates is found, within the
text and never between the two halves of a pair; a later position is never found earlier; and every index that does not
split a pair is found at the position that the lines of the server give it.
-/
namespace LspEndpoint

/-- Positions in the order of their lines, and of their characters within a line. -/
instance : LE Position := ⟨fun p q => p.line < q.line ∨ (p.line = q.line ∧ p.character ≤ q.character)⟩

theorem Position.le_def {p q : Position} :
    p ≤ q ↔ p.line < q.line ∨ (p.line = q.line ∧ p.character ≤ q.character) := Iff.rfl

namespace Text

/-- The code point at an index is the last one of a line break. -/
def breaksAt (t : Text) (k : Nat) : Bool := t[k]?.any fun c => c.endsBreak (t.drop (k + 1))

/-- The address of an index: how many line breaks end at or before it, and the code units from the start of its line. -/
def addressAt (t : Text) (i : Nat) : Position := ruledAt t.breaksAt t i

theorem breaksAt_cons_zero (c : CodePoint) (t : Text) : breaksAt (c :: t) 0 = c.endsBreak t := by
  simp [breaksAt]

theorem breaksAt_cons_succ (c : CodePoint) (t : Text) : (fun k => breaksAt (c :: t) (k + 1)) = t.breaksAt := by
  funext k
  simp [breaksAt]

theorem addressAt_cons (c : CodePoint) (t : Text) (i : Nat) :
    addressAt (c :: t) (i + 1) =
      if c.endsBreak t then ⟨(t.addressAt i).line + 1, (t.addressAt i).character⟩
      else if (t.addressAt i).line = 0 then ⟨0, c.units + (t.addressAt i).character⟩
      else t.addressAt i := by
  rw [addressAt, ruledAt_cons, breaksAt_cons_succ, breaksAt_cons_zero]
  rfl

/-! ### The index of a position in the first line -/

/-- In front of a line a newline hides all of it, any other line break hides what follows, and what is no line break
takes its units off the character. -/
theorem index_cons_first (c : CodePoint) (t : Text) (character : Nat) :
    index (c :: t) ⟨0, character⟩ =
      if c.isReturn || c.isFeed || character = 0 then 0
      else if c.isLineBreak then 1
      else t.index ⟨0, character - c.units⟩ + 1 := by
  rw [index_cons_zero]
  by_cases hn : c.isReturn || c.isFeed
  · simp [hn]
  · obtain _ | n := character
    · simp [hn]
    · by_cases hb : c.isLineBreak
      · simp [hn, hb, reach]
      · simp [hn, hb, reach, index_zero]

/-! ### Within the text -/

theorem index_le_length (t : Text) (p : Position) : t.index p ≤ t.length := by
  have hr := reach_le_length p.character (t.dropLines p.line).addressable
  have ha := (addressable_sublist (t.dropLines p.line)).length_le
  have hl := length_dropLines_le p.line t
  rw [index]
  omega

theorem splitsPair_cons_of_not_isReturn {c : CodePoint} (h : c.isReturn = false) (t : Text) (k : Nat) :
    splitsPair (c :: t) (k + 1) = t.splitsPair k := by
  cases k with
  | zero => simp [splitsPair, h]
  | succ k => exact splitsPair_cons_succ c t k

/-- A position is looked up in a line without its newline, so it is never found behind the first half of a pair. -/
theorem not_splitsPair_index (t : Text) (p : Position) : ¬ t.splitsPair (t.index p) := by
  induction t generalizing p with
  | nil => simp [splitsPair]
  | cons c t ih =>
    obtain ⟨_ | line, character⟩ := p
    · rw [index_cons_first]
      split
      · simp [splitsPair]
      · rename_i hn
        have hr : c.isReturn = false := by simp_all
        split
        · simp [splitsPair, hr]
        · rw [splitsPair_cons_of_not_isReturn hr]
          exact ih _
    · rw [index_cons_succ]
      cases hk : index t ⟨if c.endsBreak t then line else line + 1, character⟩ with
      | succ k =>
        rw [splitsPair_cons_succ, ← hk]
        exact ih _
      | zero =>
        -- A line feed behind a carriage return is in the line of the position, or before it.
        intro hs
        obtain ⟨hr, hf⟩ : c.isReturn ∧ t.head?.any CodePoint.isFeed := by
          simpa [splitsPair, List.head?_eq_getElem?] using hs
        obtain _ | ⟨d, u⟩ := t
        · simp at hf
        · have hd : d.isFeed := by simpa using hf
          have he : c.endsBreak (d :: u) = false := by simp [CodePoint.endsBreak, hr, hd]
          rw [he, if_neg Bool.false_ne_true, index_cons_succ] at hk
          cases hk

/-! ### In order -/

/-- A later position is never found earlier. -/
theorem index_mono {t : Text} {p q : Position} (h : p ≤ q) : t.index p ≤ t.index q := by
  induction t generalizing p q with
  | nil => simp
  | cons c t ih =>
    rw [Position.le_def] at h
    obtain ⟨_ | line, m⟩ := p <;> obtain ⟨_ | line', n⟩ := q
    case zero.zero =>
      have hmn : m ≤ n := by simpa using h
      have hle := ih (p := ⟨0, m - c.units⟩) (q := ⟨0, n - c.units⟩) (.inr ⟨rfl, by dsimp only; omega⟩)
      rw [index_cons_first, index_cons_first]
      split
      · exact Nat.zero_le _
      · rename_i hm
        have hn : ¬ (c.isReturn || c.isFeed || decide (n = 0)) := by
          simp only [Bool.or_eq_true, decide_eq_true_eq, not_or] at hm ⊢
          exact ⟨hm.1, by omega⟩
        rw [if_neg hn]
        split
        · exact Nat.le_refl 1
        · exact Nat.succ_le_succ hle
    case zero.succ =>
      rw [index_cons_first, index_cons_succ]
      split
      · exact Nat.zero_le _
      · split
        · exact Nat.succ_le_succ (Nat.zero_le _)
        · rename_i hb
          have he : c.endsBreak t = false := by simp [CodePoint.endsBreak, hb]
          rw [he, if_neg Bool.false_ne_true]
          exact Nat.succ_le_succ (ih (.inl (Nat.succ_pos line')))
    case succ.zero => simp at h
    case succ.succ =>
      rw [index_cons_succ, index_cons_succ]
      refine Nat.succ_le_succ (ih (Position.le_def.2 ?_))
      dsimp only at h ⊢
      split <;> omega

/-! ### Every index is found -/

theorem addressAt_line_ne_zero {d : CodePoint} (h : d.isFeed) (u : Text) (i : Nat) :
    (addressAt (d :: u) (i + 1)).line ≠ 0 := by
  rw [addressAt_cons, if_pos (endsBreak_of_isFeed h u)]
  exact Nat.succ_ne_zero _

/-- In the first line of an index there is no line break before it. -/
theorem not_isLineBreak_of_line_eq_zero {c : CodePoint} {t : Text} {i : Nat}
    (hs : ¬ splitsPair (c :: t) (i + 1)) (he : ¬ c.endsBreak t) (hl : (t.addressAt i).line = 0) :
    ¬ c.isLineBreak := by
  intro hb
  obtain ⟨hr, d, u, rfl, hd⟩ := head_of_not_endsBreak hb he
  obtain _ | i := i
  · simp [splitsPair, hr, hd] at hs
  · exact addressAt_line_ne_zero hd u i hl

theorem index_addressAt {t : Text} {i : Nat} (hi : i ≤ t.length) (hs : ¬ t.splitsPair i) :
    t.index (t.addressAt i) = i := by
  induction t generalizing i with
  | nil =>
    obtain rfl : i = 0 := by simpa using hi
    simp
  | cons c t ih =>
    obtain _ | i := i
    · simp [addressAt]
    · have hst : ¬ splitsPair t i := by
        obtain _ | i := i
        · simp [splitsPair]
        · rwa [splitsPair_cons_succ] at hs
      have hit := ih (Nat.le_of_succ_le_succ hi) hst
      rw [addressAt_cons]
      by_cases he : c.endsBreak t
      · rw [if_pos he, index_cons_succ, if_pos he, hit]
      · rw [if_neg he]
        by_cases hl : (addressAt t i).line = 0
        · have hb := not_isLineBreak_of_line_eq_zero hs he hl
          have hn : ¬ (c.isReturn || c.isFeed || decide (c.units + (addressAt t i).character = 0)) := by
            have hu := c.units_pos
            simp only [Bool.or_eq_true, decide_eq_true_eq, not_or]
            exact ⟨⟨mt CodePoint.isLineBreak_of_isReturn hb, mt CodePoint.isLineBreak_of_isFeed hb⟩, by omega⟩
          rw [if_pos hl, index_cons_first, if_neg hn, if_neg hb, Nat.add_sub_cancel_left, ← hl, hit]
        · obtain ⟨line, hp⟩ := Position.exists_eq_succ hl
          rw [if_neg hl, hp, index_cons_succ, if_neg he, ← hp, hit]

/-- How positions stand for the indexes of a text. A position is always found, within the text and not inside a pair; a
later one is found no earlier, so that a range which is not reversed is replaced as it stands; and every index that is
not inside a pair is found at its address. -/
structure IsCharted (t : Text) : Prop where
  found : ∀ p, ∃ i, t.offsetAt p = .ok i ∧ i ≤ t.length ∧ ¬ t.splitsPair i
  ordered : ∀ p q, p ≤ q → ∀ i j, t.offsetAt p = .ok i → t.offsetAt q = .ok j → i ≤ j
  replaced : ∀ r : Range, r.start ≤ r.stop → ∀ i j, t.offsetAt r.start = .ok i → t.offsetAt r.stop = .ok j →
    ∀ s, t.applyChange ⟨s, some r⟩ = .ok (t.take i ++ s ++ t.drop j)
  addressed : ∀ i, i ≤ t.length → ¬ t.splitsPair i → t.offsetAt (t.addressAt i) = .ok i

theorem isCharted_of_isScalar {t : Text} (h : t.isScalar) : t.IsCharted := by
  have hfind (p : Position) : t.offsetAt p = .ok (t.index p) := offsetAt_of_not_hides (not_hides_of_isScalar h p)
  have hordered (p q : Position) (hpq : p ≤ q) (i j : Nat) (hi : t.offsetAt p = .ok i) (hj : t.offsetAt q = .ok j) :
      i ≤ j := by
    rw [hfind, Except.ok.injEq] at hi hj
    subst hi hj
    exact index_mono hpq
  constructor
  case found => exact fun p => ⟨_, hfind p, index_le_length t p, not_splitsPair_index t p⟩
  case ordered => exact hordered
  case replaced =>
    intro r hr i j hi hj s
    have hij := hordered _ _ hr i j hi hj
    simp only [applyChange, hi, hj, splice, Nat.max_eq_right hij]
  case addressed =>
    intro i hi hs
    rw [hfind, index_addressAt hi hs]

/-- The text of the second line is `😀b` and a line separator, which ends the line and stands in it. -/
theorem isCharted_mixedText :
    mixedText.isScalar ∧ mixedText.addressAt 6 = ⟨2, 0⟩ ∧ mixedText.offsetAt ⟨2, 0⟩ = .ok 6 ∧
      mixedText.offsetAt ⟨1, 9⟩ = .ok 6 ∧ ∀ p, mixedText.offsetAt p ≠ .ok 2 := by
  have h : mixedText.IsCharted := isCharted_of_isScalar (by decide)
  refine ⟨by decide, by decide, h.addressed 6 (by decide) (by decide), rfl, fun p hp => ?_⟩
  obtain ⟨i, hi, -, hs⟩ := h.found p
  rw [hp] at hi
  cases hi
  exact hs (by decide)

end Text

end LspEndpoint
