import LspEndpoint.Proofs.Framing.Stream

/-!
What a stream declares. Every stream of bytes falls into header blocks, the bytes that they declare behind them, and an
end that is not all there. What is read of it are the declared bodies, each with exactly as many bytes as its block
declares, and every block that declares none is skipped, exactly if no block declares a negative length.
-/
namespace LspEndpoint.Framing

/-- What stands before the first line feed, and what stands behind it. -/
theorem eq_of_line_eq {line line' rest rest' : Bytes} (hl : 0x0A ∉ line) (hl' : 0x0A ∉ line')
    (h : line ++ 0x0A :: rest = line' ++ 0x0A :: rest') : line = line' ∧ rest = rest' := by
  induction line generalizing line' with
  | nil =>
    cases line' with
    | nil => exact ⟨rfl, (List.cons.inj h).2⟩
    | cons b line' => exact absurd (List.cons.inj h).1 (List.ne_of_not_mem_cons hl')
  | cons a line ih =>
    cases line' with
    | nil => exact absurd (List.cons.inj h).1.symm (List.ne_of_not_mem_cons hl)
    | cons b line' =>
      rw [List.cons_append, List.cons_append] at h
      obtain ⟨rfl, ht⟩ := List.cons.inj h
      obtain ⟨rfl, hr⟩ := ih (List.not_mem_of_not_mem_cons hl) (List.not_mem_of_not_mem_cons hl') ht
      exact ⟨rfl, hr⟩

/-- Either there is no line feed, or there is a first one. -/
theorem exists_line_or (input : Bytes) :
    (∃ line rest, 0x0A ∉ line ∧ input = line ++ 0x0A :: rest) ∨ 0x0A ∉ input := by
  induction input with
  | nil => exact .inr List.not_mem_nil
  | cons b input ih =>
    by_cases hb : b = 0x0A
    · exact .inl ⟨[], input, List.not_mem_nil, by rw [hb, List.nil_append]⟩
    · rcases ih with ⟨line, rest, hl, rfl⟩ | hnone
      · exact .inl ⟨b :: line, rest, by simp [Ne.symm hb, hl], rfl⟩
      · exact .inr (by simp [Ne.symm hb, hnone])

namespace Block

/-- The last line that declares a length declares this one. -/
def Declares (b : Block) (n : Int) : Prop :=
  ∃ value, LastLength b.lines value ∧ Integer.read (Text.trim value.decodeAscii) = .ok n

theorem declares_iff {b : Block} {n : Int} : b.Declares n ↔ b.headers.contentLength = .ok n := by
  constructor
  · rintro ⟨value, hv, hn⟩
    rw [headers, contentLength_of_lastLength hv, hn]
  · intro h
    rcases exists_lastLength_or b.lines with ⟨value, hv⟩ | hnone
    · exact ⟨value, hv, (contentLength_of_lastLength hv).symm.trans h⟩
    · obtain ⟨e, he⟩ : ∃ e, (headersOf b.lines).contentLength = .error e := contentLength_error fun value hv => by
        obtain ⟨before, line, after, hl, hline, -⟩ := hv
        exact absurd hline (hnone line (by rw [hl]; simp) value)
      rw [headers, he] at h
      cases h

theorem Declares.unique {b : Block} {m n : Int} (hm : b.Declares m) (hn : b.Declares n) : m = n :=
  Except.ok.inj ((declares_iff.1 hm).symm.trans (declares_iff.1 hn))

/-- Either some integer is declared, or the length is refused. -/
theorem declares_or (b : Block) :
    (∃ n, b.Declares n) ∨ (∀ n, ¬ b.Declares n) ∧ ∃ e, b.headers.contentLength = .error e := by
  cases h : b.headers.contentLength with
  | ok n => exact .inl ⟨n, declares_iff.2 h⟩
  | error e =>
    refine .inr ⟨fun n hn => ?_, e, rfl⟩
    rw [declares_iff.1 hn] at h
    cases h

/-- A block without lines. -/
def empty (isCrlf : Bool) : Block where
  lines := []
  isCrlf := isCrlf
  noFeed := by simp
  notBlank := by simp

/-- A block with one more line in front. -/
def cons (line : Bytes) (hf : 0x0A ∉ line) (hb : line ≠ [] ∧ line ≠ [0x0D]) (b : Block) : Block where
  lines := line :: b.lines
  isCrlf := b.isCrlf
  noFeed := List.forall_mem_cons.2 ⟨hf, b.noFeed⟩
  notBlank := List.forall_mem_cons.2 ⟨hb, b.notBlank⟩

theorem bytes_cons (line : Bytes) (hf : 0x0A ∉ line) (hb : line ≠ [] ∧ line ≠ [0x0D]) (b : Block) :
    (b.cons line hf hb).bytes = line ++ 0x0A :: b.bytes := by
  simp only [bytes, cons, List.flatMap_cons, List.append_assoc, List.cons_append, List.nil_append]
  rfl

theorem bytes_nil {b : Block} (h : b.lines = []) (rest : Bytes) :
    b.bytes ++ rest = b.blank ++ 0x0A :: rest := by
  simp [bytes, h]

theorem exists_cons {b : Block} {line : Bytes} {lines : List Bytes} (h : b.lines = line :: lines) :
    ∃ hf hb c, b = cons line hf hb c := by
  obtain ⟨ls, isCrlf, hf, hb⟩ := b
  cases h
  exact ⟨(List.forall_mem_cons.1 hf).1, (List.forall_mem_cons.1 hb).1,
    ⟨lines, isCrlf, (List.forall_mem_cons.1 hf).2, (List.forall_mem_cons.1 hb).2⟩, rfl⟩

/-- The line of a block that has one is no blank line. -/
theorem ne_blank {line : Bytes} (h : line ≠ [] ∧ line ≠ [0x0D]) (b : Block) : line ≠ b.blank := by
  unfold blank
  split
  · exact h.2
  · exact h.1

/-- A stream begins with one block at most. -/
theorem append_inj {b b' : Block} {rest rest' : Bytes} (h : b.bytes ++ rest = b'.bytes ++ rest') :
    b = b' ∧ rest = rest' := by
  induction hl : b.lines generalizing b b' with
  | nil =>
    cases hl' : b'.lines with
    | nil =>
      rw [bytes_nil hl, bytes_nil hl'] at h
      obtain ⟨hblank, hrest⟩ := eq_of_line_eq b.not_mem_blank b'.not_mem_blank h
      obtain ⟨lines, isCrlf, _, _⟩ := b
      obtain ⟨lines', isCrlf', _, _⟩ := b'
      cases hl
      cases hl'
      refine ⟨?_, hrest⟩
      cases isCrlf <;> cases isCrlf' <;> first | rfl | cases hblank
    | cons line' lines' =>
      obtain ⟨hf, hb, c, rfl⟩ := exists_cons hl'
      rw [bytes_nil hl, bytes_cons, List.append_assoc, List.cons_append] at h
      exact absurd (eq_of_line_eq b.not_mem_blank hf h).1.symm (ne_blank hb b)
  | cons line lines ih =>
    obtain ⟨hf, hb, c, rfl⟩ := exists_cons hl
    cases hl' : b'.lines with
    | nil =>
      rw [bytes_nil hl', bytes_cons, List.append_assoc, List.cons_append] at h
      exact absurd (eq_of_line_eq hf b'.not_mem_blank h).1 (ne_blank hb b')
    | cons line' lines' =>
      obtain ⟨hf', hb', c', rfl⟩ := exists_cons hl'
      rw [bytes_cons, bytes_cons, List.append_assoc, List.append_assoc, List.cons_append, List.cons_append] at h
      obtain ⟨rfl, hbehind⟩ := eq_of_line_eq hf hf' h
      obtain ⟨rfl, hrest⟩ := ih hbehind (List.cons.inj hl).2
      exact ⟨rfl, hrest⟩

/-- The bytes are all that the block declares, and as many as can be counted. -/
structure Carries (b : Block) (payload : Bytes) : Prop where
  declares : b.Declares payload.length
  countable : countable payload.length

end Block

/-- Either a whole block comes first, or the reading ends with no block read. -/
theorem exists_block_or (input : Bytes) :
    (∃ (b : Block) (rest : Bytes), input = b.bytes ++ rest) ∨
      ∀ headers, readFrom [] headers [] input = ⟨[], .ended⟩ := by
  induction hn : input.length using Nat.strongRecOn generalizing input with
  | ind n ih =>
    rcases exists_line_or input with ⟨line, rest, hl, rfl⟩ | hnone
    · by_cases hnil : line = []
      · exact .inl ⟨.empty false, rest, by rw [Block.bytes_nil rfl, hnil]; rfl⟩
      · by_cases hcr : line = [0x0D]
        · exact .inl ⟨.empty true, rest, by rw [Block.bytes_nil rfl, hcr]; rfl⟩
        · rcases ih rest.length (by rw [← hn, List.length_append, List.length_cons]; omega) rest rfl with
            ⟨b, rest, rfl⟩ | hend
          · refine .inl ⟨b.cons line hl ⟨hnil, hcr⟩, rest, ?_⟩
            rw [Block.bytes_cons, List.append_assoc, List.cons_append]
          · refine .inr fun headers => ?_
            rw [← List.singleton_append, ← List.append_assoc, readFrom_cons [] headers hl ⟨hnil, hcr⟩, hend]
    · exact .inr fun headers => readFrom_of_prefix _ _ hnone (List.prefix_refl _)

theorem takeBody_ne_ended (length : Int) (bytes : Bytes) : takeBody length bytes ≠ .ended := by
  intro h
  unfold takeBody at h
  repeat' split at h
  all_goals cases h

/-- No whole block comes first, or one does and the bytes that it declares do not all follow; a number of them that
cannot be counted is never taken to be there. -/
inductive Unfinished : Bytes → Prop
  | block {input : Bytes} (none : ∀ (b : Block) (rest : Bytes), input ≠ b.bytes ++ rest) : Unfinished input
  | body {b : Block} {part : Bytes} {n : Nat} (declares : b.Declares n)
      (missing : part.length < n ∨ ¬ countable n) : Unfinished (b.bytes ++ part)

/-- The texts that a stream of bytes declares and the headers of the blocks to be skipped. -/
inductive Yields : Bytes → List Text → List Headers → Prop
  | body {b : Block} {payload rest : Bytes} {texts : List Text} {skipped : List Headers}
      (carries : b.Carries payload) (behind : Yields rest texts skipped) :
      Yields (b.bytes ++ (payload ++ rest)) (payload.decode :: texts) skipped
  | skipped {b : Block} {rest : Bytes} {texts : List Text} {skipped : List Headers}
      (lengthless : ∀ n : Nat, ¬ b.Declares n) (behind : Yields rest texts skipped) :
      Yields (b.bytes ++ rest) texts (b.headers :: skipped)
  | ended {input : Bytes} (unfinished : Unfinished input) : Yields input [] []

/-- The block stands at the start of the stream or behind others, each with the bytes that it declares. -/
inductive Reaches : Bytes → Block → Prop
  | here (b : Block) (rest : Bytes) : Reaches (b.bytes ++ rest) b
  | behindBody {b last : Block} {payload rest : Bytes} (carries : b.Carries payload) (behind : Reaches rest last) :
      Reaches (b.bytes ++ (payload ++ rest)) last
  | behindSkipped {b last : Block} {rest : Bytes} (lengthless : ∀ n, ¬ b.Declares n) (behind : Reaches rest last) :
      Reaches (b.bytes ++ rest) last

/-- What is read of a stream is what it declares, with one line of the log for each block that is skipped. -/
structure IsDeclared (input : Bytes) (r : List Text × List Headers × Outcome) : Prop where
  yields : Yields input r.1 r.2.1
  oneLine : ∀ h ∈ r.2.1, CodePoint.ofChar '\n' ∉ skippedMessage h

theorem isDeclared_iff {input : Bytes} : IsDeclared input (readAll input) ↔
    Yields input (readAll input).1 (readAll input).2.1 :=
  ⟨IsDeclared.yields, fun h => ⟨h, fun headers _ => lineFeed_not_mem_skippedMessage headers⟩⟩

/-- A reader that comes to the end without a block was given none. -/
theorem ne_of_read_ended {input : Bytes} (h : read input = ⟨[], .ended⟩) (b : Block) (rest : Bytes) :
    input ≠ b.bytes ++ rest := by
  rintro rfl
  rw [read_block] at h
  split at h
  · cases h
  · exact takeBody_ne_ended _ _ (congrArg Read.outcome h)

section Block

variable {b : Block} {payload part rest : Bytes}

theorem readAll_carries (h : b.Carries payload) (rest : Bytes) :
    readAll (b.bytes ++ (payload ++ rest)) =
      (payload.decode :: (readAll rest).1, (readAll rest).2.1, (readAll rest).2.2) := by
  have hread := read_block b (payload ++ rest)
  rw [Block.declares_iff.1 h.declares] at hread
  simp only [takeBody_append h.countable] at hread
  rw [readAll_of_body hread]
  rfl

theorem readAll_lengthless (h : ∀ n, ¬ b.Declares n) (rest : Bytes) :
    readAll (b.bytes ++ rest) = ((readAll rest).1, b.headers :: (readAll rest).2.1, (readAll rest).2.2) := by
  rcases b.declares_or with ⟨n, hn⟩ | ⟨-, e, he⟩
  · exact absurd hn (h n)
  · exact readAll_block he rest

/-- Of a block whose bytes are not all there nothing is read. -/
theorem readAll_unfinished {n : Nat} (hn : b.Declares n) (h : part.length < n ∨ ¬ countable n) :
    ∃ outcome, readAll (b.bytes ++ part) = ([], [], outcome) := by
  have hread := read_block b part
  rw [Block.declares_iff.1 hn] at hread
  dsimp only at hread
  by_cases hc : countable n
  · rw [takeBody_truncated hc (h.resolve_right fun hnc => hnc hc)] at hread
    exact ⟨_, readAll_of_stop hread fun _ _ h => by cases h⟩
  · rw [takeBody_overflow hc] at hread
    exact ⟨_, readAll_of_stop hread fun _ _ h => by cases h⟩

/-- A negative length takes the rest of the stream, unless it cannot be counted; no block is skipped then. -/
theorem readAll_negative {n : Int} (hn : b.Declares n) (hneg : n < 0) (rest : Bytes) :
    readAll (b.bytes ++ rest) = if countable n then ([rest.decode], [], .ended) else ([], [], .overflow) := by
  have hread := read_block b rest
  rw [Block.declares_iff.1 hn] at hread
  dsimp only at hread
  split
  · rename_i hc
    rw [takeBody, hc, if_neg (by decide), if_pos hneg] at hread
    rw [readAll_of_body hread, readAll_nil]
    rfl
  · rename_i hc
    rw [takeBody_overflow hc] at hread
    exact readAll_of_stop hread fun _ _ h => by cases h

theorem skipped_negative {n : Int} (hn : b.Declares n) (hneg : n < 0) (rest : Bytes) :
    (readAll (b.bytes ++ rest)).2.1 = [] := by
  rw [readAll_negative hn hneg]
  split <;> rfl

/-- What a stream yields behind a body that is all there. -/
theorem Yields.behind_body (h : b.Carries payload) {texts : List Text} {skipped : List Headers}
    (hy : Yields (b.bytes ++ (payload ++ rest)) texts skipped) :
    ∃ behind, texts = payload.decode :: behind ∧ Yields rest behind skipped := by
  generalize hinput : b.bytes ++ (payload ++ rest) = input at hy
  cases hy with
  | body carries behind =>
    obtain ⟨rfl, hbehind⟩ := Block.append_inj hinput
    have hlength := Int.ofNat_inj.1 (h.declares.unique carries.declares)
    obtain ⟨rfl, rfl⟩ := List.append_inj hbehind hlength
    exact ⟨_, rfl, behind⟩
  | skipped lengthless behind =>
    obtain ⟨rfl, -⟩ := Block.append_inj hinput
    exact absurd h.declares (lengthless _)
  | ended unfinished =>
    cases unfinished with
    | block none => exact absurd hinput.symm (none _ _)
    | body declares missing =>
      obtain ⟨rfl, rfl⟩ := Block.append_inj hinput
      have hlength := Int.ofNat_inj.1 (h.declares.unique declares)
      subst hlength
      rcases missing with hshort | hnc
      · rw [List.length_append] at hshort
        omega
      · exact absurd h.countable hnc

/-- What a stream yields behind a block that declares no integer from 0 on. -/
theorem Yields.behind_block (h : ∀ n : Nat, ¬ b.Declares n) {texts : List Text} {skipped : List Headers}
    (hy : Yields (b.bytes ++ rest) texts skipped) :
    ∃ behind, skipped = b.headers :: behind ∧ Yields rest texts behind := by
  generalize hinput : b.bytes ++ rest = input at hy
  cases hy with
  | body carries behind =>
    obtain ⟨rfl, -⟩ := Block.append_inj hinput
    exact absurd carries.declares (h _)
  | skipped lengthless behind =>
    obtain ⟨rfl, rfl⟩ := Block.append_inj hinput
    exact ⟨_, rfl, behind⟩
  | ended unfinished =>
    cases unfinished with
    | block none => exact absurd hinput.symm (none _ _)
    | body declares missing =>
      obtain ⟨rfl, -⟩ := Block.append_inj hinput
      exact absurd declares (h _)

end Block

/-- What a stream declares is read, if no block of it declares a negative length. -/
theorem yields_readAll {input : Bytes} (h : ∀ b, Reaches input b → ∀ n, b.Declares n → 0 ≤ n) :
    Yields input (readAll input).1 (readAll input).2.1 := by
  induction hlen : input.length using Nat.strongRecOn generalizing input with
  | ind len ih =>
    rcases exists_block_or input with ⟨b, rest, rfl⟩ | hend
    · have hshort {behind : Bytes} (hb : behind.length ≤ rest.length) : behind.length < len := by
        rw [← hlen, List.length_append, Block.bytes, List.length_append, List.length_singleton]
        omega
      rcases b.declares_or with ⟨n, hn⟩ | ⟨hnone, e, he⟩
      · obtain ⟨n, rfl⟩ := Int.eq_ofNat_of_zero_le (h b (.here b rest) n hn)
        by_cases hall : n ≤ rest.length ∧ countable n
        · have hcarries : b.Carries (rest.take n) := by
            have hlength : (rest.take n).length = n := List.length_take_of_le hall.1
            exact ⟨by rw [hlength]; exact hn, by rw [hlength]; exact hall.2⟩
          rw [← List.take_append_drop n rest] at h ⊢
          rw [readAll_carries hcarries]
          refine .body hcarries (ih _ (hshort ?_) (fun last hlast => ?_) rfl)
          · rw [List.length_drop]
            exact Nat.sub_le ..
          · exact h last (.behindBody hcarries hlast)
        · have hmissing : rest.length < n ∨ ¬ countable n := by
            rcases Decidable.not_and_iff_not_or_not.1 hall with h | h
            · exact .inl (Nat.lt_of_not_le h)
            · exact .inr h
          obtain ⟨outcome, hstop⟩ := readAll_unfinished hn hmissing
          rw [hstop]
          exact .ended (.body hn hmissing)
      · rw [readAll_block he]
        refine .skipped (fun n => hnone n) (ih _ (hshort (Nat.le_refl _)) (fun last hlast => ?_) rfl)
        exact h last (.behindSkipped hnone hlast)
    · rw [readAll_of_stop (hend []) fun _ _ h => by cases h]
      exact .ended (.block (ne_of_read_ended (hend [])))

/-- If what a stream declares is read, no block that a reader comes to declares a negative length. -/
theorem nonneg_of_yields {input : Bytes} {b : Block} (hb : Reaches input b)
    (hy : Yields input (readAll input).1 (readAll input).2.1) {n : Int} (hn : b.Declares n) : 0 ≤ n := by
  induction hb with
  | here b rest =>
    refine Int.not_lt.1 fun hneg => ?_
    obtain ⟨behind, hskipped, -⟩ := hy.behind_block fun m hm => by
      have := hm.unique hn
      omega
    rw [skipped_negative hn hneg] at hskipped
    cases hskipped
  | behindBody carries behind ih =>
    obtain ⟨texts, htexts, hbehind⟩ := hy.behind_body carries
    rw [readAll_carries carries] at htexts hbehind
    rw [← (List.cons.inj htexts).2] at hbehind
    exact ih hbehind hn
  | behindSkipped lengthless behind ih =>
    obtain ⟨skipped, hskipped, hbehind⟩ := hy.behind_block fun m => lengthless m
    rw [readAll_lengthless lengthless] at hskipped hbehind
    rw [← (List.cons.inj hskipped).2] at hbehind
    exact ih hbehind hn

/-- What is read of a stream is exactly what it declares, and every block that declares no length is skipped with one
line of the log, if and only if no block that a reader comes to declares a negative length. -/
theorem readAll_isDeclared_iff (input : Bytes) :
    IsDeclared input (readAll input) ↔ ∀ b, Reaches input b → ∀ n, b.Declares n → 0 ≤ n := by
  rw [isDeclared_iff]
  exact ⟨fun hy b hb n hn => nonneg_of_yields hb hy hn, yields_readAll⟩

/-- A block that declares a length of minus one. -/
def negativeBlock : Block where
  lines := [asciiBytes "Content-Length: -1\r"]
  isCrlf := true
  noFeed := by decide
  notBlank := by decide

theorem readAll_negativeBlock :
    negativeBlock.bytes ++ asciiBytes "abc" = asciiBytes "Content-Length: -1\r\n\r\nabc" ∧
      readAll (asciiBytes "Content-Length: -1\r\n\r\nabc") = ([Text.ofString "abc"], [], .ended) ∧
        ¬ IsDeclared (asciiBytes "Content-Length: -1\r\n\r\nabc")
          (readAll (asciiBytes "Content-Length: -1\r\n\r\nabc")) := by
  have hbytes : negativeBlock.bytes ++ asciiBytes "abc" = asciiBytes "Content-Length: -1\r\n\r\nabc" := by decide
  have hdeclares : negativeBlock.Declares (-1) := Block.declares_iff.2 rfl
  have hread := readAll_negative hdeclares (by decide) (asciiBytes "abc")
  refine ⟨hbytes, ?_, fun h => ?_⟩
  · rw [← hbytes, hread]
    decide
  · rw [← hbytes] at h
    exact absurd (nonneg_of_yields (.here negativeBlock _) h.yields hdeclares) (by decide)

end LspEndpoint.Framing
