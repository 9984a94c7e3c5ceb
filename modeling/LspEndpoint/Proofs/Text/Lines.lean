import LspEndpoint.Document.Offset

/-!
Lines, one code point at a time. Dropping the first line of a text and finding what of it positions
can point into are recursions over the text, which is how a text that is cut anywhere is treated.
-/
namespace LspEndpoint

namespace CodePoint

/-- Whether the code point is the last of a line break, given what follows it. -/
def endsBreak (c : CodePoint) (t : Text) : Bool :=
  c.isLineBreak && !(c.isReturn && t.head?.any isFeed)

theorem isLineBreak_of_isReturn {c : CodePoint} (h : c.isReturn) : c.isLineBreak := by
  simp only [isReturn, beq_iff_eq] at h
  simp [isLineBreak, h]

theorem isLineBreak_of_isFeed {c : CodePoint} (h : c.isFeed) : c.isLineBreak := by
  simp only [isFeed, beq_iff_eq] at h
  simp [isLineBreak, h]

theorem not_isReturn_of_isFeed {c : CodePoint} (h : c.isFeed) : c.isReturn = false := by
  simp only [isFeed, beq_iff_eq] at h
  simp [isReturn, h]

end CodePoint

namespace Text

theorem endsBreak_of_isFeed {c : CodePoint} (h : c.isFeed) (t : Text) : c.endsBreak t := by
  simp [CodePoint.endsBreak, CodePoint.isLineBreak_of_isFeed h, CodePoint.not_isReturn_of_isFeed h]

theorem breakLength_cons {c : CodePoint} (h : c.isLineBreak) (t : Text) :
    breakLength (c :: t) = if c.endsBreak t then 1 else 2 := by
  cases t with
  | nil => simp [breakLength, CodePoint.endsBreak, h]
  | cons d t =>
    by_cases hr : c.isReturn <;> by_cases hf : d.isFeed <;>
      simp [breakLength, CodePoint.endsBreak, h, hr, hf]

theorem head_of_not_endsBreak {c : CodePoint} {t : Text} (h : c.isLineBreak)
    (he : ¬ c.endsBreak t) : c.isReturn ∧ ∃ d u, t = d :: u ∧ d.isFeed := by
  cases t with
  | nil => simp [CodePoint.endsBreak, h] at he
  | cons d u => simpa [CodePoint.endsBreak, h] using he

/-- Up to the end of its line break a line is dropped code point by code point. -/
theorem dropLine_cons (c : CodePoint) (t : Text) :
    dropLine (c :: t) = if c.endsBreak t then t else dropLine t := by
  by_cases h : c.isLineBreak
  · by_cases he : c.endsBreak t
    · simp [dropLine, fromBreak, h, breakLength_cons h, he]
    · obtain ⟨-, d, u, rfl, hd⟩ := head_of_not_endsBreak h he
      have hb := CodePoint.isLineBreak_of_isFeed hd
      simp [dropLine, fromBreak, h, hb, breakLength_cons h, breakLength_cons hb, he,
        endsBreak_of_isFeed hd u]
  · simp [dropLine, fromBreak, CodePoint.endsBreak, h]

theorem firstLine_cons (c : CodePoint) (t : Text) :
    firstLine (c :: t) = c :: if c.endsBreak t then [] else firstLine t := by
  by_cases h : c.isLineBreak
  · by_cases he : c.endsBreak t
    · simp [firstLine, lineBody, fromBreak, h, breakLength_cons h, he]
    · obtain ⟨-, d, u, rfl, hd⟩ := head_of_not_endsBreak h he
      have hb := CodePoint.isLineBreak_of_isFeed hd
      simp [firstLine, lineBody, fromBreak, h, hb, breakLength_cons h, breakLength_cons hb, he,
        endsBreak_of_isFeed hd u]
  · simp [firstLine, lineBody, fromBreak, CodePoint.endsBreak, h]

theorem trimNewlines_cons {c : CodePoint} (h : ¬ (c.isReturn || c.isFeed)) (t : Text) :
    trimNewlines (c :: t) = c :: trimNewlines t := by
  simp only [trimNewlines, List.reverse_cons, List.dropWhile_append]
  by_cases hd : t.reverse.dropWhile (fun c => c.isReturn || c.isFeed) = []
  · simp [hd, h]
  · simp [hd]

theorem addressable_nil : addressable [] = [] := rfl

/-- A carriage return or line feed leaves nothing of its line, any other line break ends the line and
belongs to it, and what is no line break stands before the rest of the line. -/
theorem addressable_cons (c : CodePoint) (t : Text) :
    addressable (c :: t) =
      if c.isReturn || c.isFeed then [] else if c.isLineBreak then [c] else c :: addressable t := by
  by_cases hn : c.isReturn || c.isFeed
  · have hor : c.isReturn ∨ c.isFeed := by simpa using hn
    rw [if_pos hn, addressable, firstLine_cons]
    by_cases he : c.endsBreak t
    · simp [he, trimNewlines, hor]
    · have hb : c.isLineBreak := by
        rcases hor with h | h
        · exact CodePoint.isLineBreak_of_isReturn h
        · exact CodePoint.isLineBreak_of_isFeed h
      obtain ⟨hr, d, u, rfl, hd⟩ := head_of_not_endsBreak hb he
      simp [he, firstLine_cons d u, endsBreak_of_isFeed hd u, trimNewlines, hr, hd]
  · rw [if_neg hn, addressable, firstLine_cons, trimNewlines_cons hn]
    by_cases hb : c.isLineBreak
    · have hr : c.isReturn = false := by simp_all
      simp [hb, CodePoint.endsBreak, hr, trimNewlines]
    · simp [hb, CodePoint.endsBreak, addressable]

theorem length_dropLine_le (t : Text) : t.dropLine.length ≤ t.length := by
  have h := congrArg List.length (firstLine_append_dropLine t)
  simp only [List.length_append] at h
  omega

theorem length_dropLines_le (n : Nat) (t : Text) : (t.dropLines n).length ≤ t.length := by
  induction n generalizing t with
  | zero => simp
  | succ n ih =>
    rw [dropLines_succ]
    exact Nat.le_trans (ih _) (length_dropLine_le t)

end Text

end LspEndpoint
