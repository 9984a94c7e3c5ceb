import LspEndpoint.Proofs.Framing.Block
import LspEndpoint.Proofs.Number.Integer
import LspEndpoint.Proofs.Text.Utf8

/-!
Frames survive the way. What was framed is read as one body, whatever bytes follow it, and these bytes are
what is left to read.
-/
namespace LspEndpoint.Framing

/-- The line of a header that declares a length, without its line feed. -/
def lengthLine (n : Nat) : Text := "Content-Length" ++ ":" ++ (" " ++ Text.ofNat n ++ "\r")

theorem val_lt_of_isDigit {c : CodePoint} (h : c.isDigit) : c.val < 0x80 ∧ c.val ≠ 0x0A := by
  simp only [CodePoint.isDigit, Bool.and_eq_true, decide_eq_true_eq] at h
  omega

theorem val_of_mem_lengthLine {n : Nat} {c : CodePoint} (h : c ∈ lengthLine n) :
    c.val < 0x80 ∧ c.val ≠ 0x0A := by
  have hw : ∀ c ∈ Text.ofString "Content-Length" ++ ":" ++ " " ++ "\r", c.val < 0x80 ∧ c.val ≠ 0x0A := by
    decide
  simp only [lengthLine, List.mem_append] at h hw
  rcases h with (h | h) | (h | h) | h
  · exact hw c (.inl (.inl (.inl h)))
  · exact hw c (.inl (.inl (.inr h)))
  · exact hw c (.inl (.inr h))
  · exact val_lt_of_isDigit (Text.isDigit_of_mem_ofNat h)
  · exact hw c (.inr h)

theorem lineFeed_not_mem_lengthLine (n : Nat) : 0x0A ∉ asciiBytes (lengthLine n) := by
  intro hb
  obtain ⟨c, hc, he⟩ := List.mem_map.1 hb
  obtain ⟨hlt, hne⟩ := val_of_mem_lengthLine hc
  have hv := congrArg UInt8.toNat he
  rw [UInt8.toNat_ofNat_of_lt' (Nat.lt_trans hlt (by decide))] at hv
  exact hne hv

theorem two_le_length_lengthLine (n : Nat) : 2 ≤ (asciiBytes (lengthLine n)).length := by
  have hc : (Text.ofString "Content-Length").length = 14 := by decide
  simp only [asciiBytes, lengthLine, List.length_map, List.length_append, hc]
  omega

theorem hasLength_lengthLine (n : Nat) :
    HasLength (asciiBytes (lengthLine n)) ([0x20] ++ asciiBytes (Text.ofNat n) ++ [0x0D]) := by
  have hcolon : asciiBytes ":" = [0x3A] := by decide
  have hspace : asciiBytes " " = [0x20] := by decide
  have hreturn : asciiBytes "\r" = [0x0D] := by decide
  refine ⟨[], [], "Content-Length", rfl, rfl, by decide, ?_⟩
  simp only [lengthLine, asciiBytes_append, hcolon, hspace, hreturn, List.nil_append, List.append_nil,
    List.append_assoc, List.cons_append]

/-- The block that the writer puts before a body of so many bytes. -/
def lengthBlock (n : Nat) : Block where
  lines := [asciiBytes (lengthLine n)]
  isCrlf := true
  noFeed := List.forall_mem_singleton.2 (lineFeed_not_mem_lengthLine n)
  notBlank := by
    have hl := two_le_length_lengthLine n
    rw [List.forall_mem_singleton]
    constructor <;> intro e <;> rw [e] at hl <;> exact absurd hl (by decide)

theorem lastLength_lengthBlock (n : Nat) :
    LastLength (lengthBlock n).lines ([0x20] ++ asciiBytes (Text.ofNat n) ++ [0x0D]) :=
  ⟨[], _, [], rfl, hasLength_lengthLine n, nofun⟩

/-- A length that stands in digits with padding around is the length that is read. -/
theorem contentLength_of_digits {lines : List Bytes} {left right : Bytes} {n : Nat} (hl : left.all isPadding)
    (hr : right.all isPadding) (h : LastLength lines (left ++ asciiBytes (Text.ofNat n) ++ right)) :
    (headersOf lines).contentLength = Integer.read (Text.ofNat n) := by
  rw [contentLength_of_lastLength h, trim_decodeAscii hl hr (Text.ofNat_ne_nil n)]
  intro c hc
  have hd := Text.isDigit_of_mem_ofNat hc
  exact ⟨(val_lt_of_isDigit hd).1, CodePoint.isBlank_of_isDigit hd⟩

theorem takeBody_append {body : Bytes} (h : countable body.length) (rest : Bytes) :
    takeBody body.length (body ++ rest) = .body body.decode rest := by
  have hl : ¬ (body.length : Int) < 0 := by omega
  have ht : ¬ (body ++ rest).length < body.length := by simp
  simp only [takeBody, h, Bool.not_true, Bool.false_eq_true, if_false, hl, Int.toNat_natCast, ht,
    List.take_left, List.drop_left]

theorem isShown_of_countable {n : Nat} (h : countable n) : Integer.isShown n := by
  have hn : n < 10 ^ 19 := by
    simp only [countable, Bool.and_eq_true, decide_eq_true_eq] at h
    omega
  have hk : 19 ≤ maxIntegerDigits := by decide
  unfold Integer.isShown
  -- The bound stays a variable, so that no power of ten is worked out.
  generalize maxIntegerDigits = k at hk ⊢
  exact decide_eq_true (Nat.lt_of_lt_of_le hn (Nat.pow_le_pow_right (by decide) hk))

theorem frameOf_eq (body : Bytes) : frameOf body = (lengthBlock body.length).bytes ++ body := by
  have hf : Text.ofString "Content-Length: " = Text.ofString "Content-Length" ++ ":" ++ " " := by
    decide
  have he : Text.ofString "\r\n\r\n" = Text.ofString "\r" ++ "\n\r\n" := by decide
  have hb : asciiBytes "\n\r\n" = [0x0A, 0x0D, 0x0A] := by decide
  rw [frameOf, hf, he, Block.bytes]
  simp only [lengthBlock, Block.blank, lengthLine, List.flatMap_singleton, if_true, asciiBytes_append, hb,
    List.append_assoc, List.cons_append, List.nil_append]

/-- What was framed is the next body to be read, and what follows it is left. -/
theorem read_frameOf {body : Bytes} (h : countable body.length) (rest : Bytes) :
    read (frameOf body ++ rest) = ⟨[], .body body.decode rest⟩ := by
  have hn : (lengthBlock body.length).headers.contentLength = .ok (body.length : Int) :=
    (contentLength_of_digits rfl rfl (lastLength_lengthBlock _)).trans
      (Integer.read_ofNat (isShown_of_countable h))
  rw [frameOf_eq, List.append_assoc, read_block, hn]
  simp only [takeBody_append h]

/-- A frame in front is read first. -/
theorem readAll_of_body {input rest : Bytes} {skipped : List Headers} {text : Text}
    (h : read input = ⟨skipped, .body text rest⟩) :
    readAll input =
      (text :: (readAll rest).1, skipped ++ (readAll rest).2.1, (readAll rest).2.2) := by
  rw [readAll]
  split
  · rename_i t r he
    rw [h] at he ⊢
    cases he
    rfl
  · rename_i ho
    exact absurd (congrArg Read.outcome h) (ho text rest)

/-- A read without a body is the last one. -/
theorem readAll_of_stop {input : Bytes} {skipped : List Headers} {outcome : Outcome}
    (h : read input = ⟨skipped, outcome⟩) (ho : ∀ text rest, outcome ≠ .body text rest) :
    readAll input = ([], skipped, outcome) := by
  rw [readAll]
  split
  · rename_i t r he
    rw [h] at he
    exact absurd he (ho t r)
  · rw [h]

theorem readAll_nil : readAll [] = ([], [], .ended) :=
  readAll_of_stop rfl nofun

end LspEndpoint.Framing
