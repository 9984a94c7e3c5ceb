import LspEndpoint.Proofs.Framing.Header
import LspEndpoint.Proofs.Number.Integer

/-!
Header blocks. A block is as many lines as come before the first blank one. A reader takes a whole block in one
go, whatever bytes follow it, and takes nothing from a block that breaks off.
-/
namespace LspEndpoint.Framing

/-- The last of the lines that declares a length does so by this value. -/
def LastLength (lines : List Bytes) (value : Bytes) : Prop :=
  ∃ before line after, lines = before ++ line :: after ∧ HasLength line value ∧
    ∀ l ∈ after, ∀ v, ¬ HasLength l v

/-- Either no line declares a length or one of them is the last to do so. -/
theorem exists_lastLength_or (lines : List Bytes) :
    (∃ value, LastLength lines value) ∨ ∀ l ∈ lines, ∀ v, ¬ HasLength l v := by
  induction lines with
  | nil => exact .inr fun l hl => absurd hl (List.not_mem_nil)
  | cons line lines ih =>
    rcases ih with ⟨value, before, last, after, rfl, h, hafter⟩ | hnone
    · exact .inl ⟨value, line :: before, last, after, rfl, h, hafter⟩
    · by_cases hl : ∃ value, HasLength line value
      · obtain ⟨value, h⟩ := hl
        exact .inl ⟨value, [], line, lines, rfl, h, hnone⟩
      · exact .inr (List.forall_mem_cons.2 ⟨fun v h => hl ⟨v, h⟩, hnone⟩)

theorem lookup_addLine_of_hasLength (headers : Headers) {line value : Bytes} (h : HasLength line value) :
    (headers.addLine line).lookup lengthKey = some (Text.trim value.decodeAscii) := by
  rw [Headers.addLine, header?_of_hasLength h]
  simp only [Entries.lookup_insert, if_true]

theorem lookup_addLine_of_not (headers : Headers) {line : Bytes} (h : ∀ v, ¬ HasLength line v) :
    (headers.addLine line).lookup lengthKey = headers.lookup lengthKey := by
  rw [Headers.addLine]
  split
  · rfl
  · rename_i name value he
    have hne : lengthKey ≠ name := by
      rintro rfl
      obtain ⟨v, hv⟩ := hasLength_of_header? he
      exact h v hv
    simp only [Entries.lookup_insert, if_neg hne]

theorem lookup_foldl_of_not (headers : Headers) {lines : List Bytes} (h : ∀ l ∈ lines, ∀ v, ¬ HasLength l v) :
    (lines.foldl Headers.addLine headers).lookup lengthKey = headers.lookup lengthKey := by
  induction lines generalizing headers with
  | nil => rfl
  | cons line lines ih =>
    rw [List.foldl_cons, ih _ fun l hl => h l (List.mem_cons_of_mem _ hl),
      lookup_addLine_of_not _ (h line (List.mem_cons_self ..))]

/-- The headers that the lines of a block make. -/
def headersOf (lines : List Bytes) : Headers := lines.foldl Headers.addLine []

/-- The last line that declares a length counts. -/
theorem contentLength_of_lastLength {lines : List Bytes} {value : Bytes} (h : LastLength lines value) :
    (headersOf lines).contentLength = Integer.read (Text.trim value.decodeAscii) := by
  obtain ⟨before, line, after, rfl, hl, hafter⟩ := h
  have hlookup : (headersOf (before ++ line :: after)).lookup lengthKey =
      some (Text.trim value.decodeAscii) := by
    rw [headersOf, List.foldl_append, List.foldl_cons, lookup_foldl_of_not _ hafter,
      lookup_addLine_of_hasLength _ hl]
  rw [lengthKey] at hlookup
  rw [Headers.contentLength, hlookup, Option.getD_some]

/-- A block has no length if no value that counts is an integer. -/
theorem contentLength_error {lines : List Bytes}
    (h : ∀ value, LastLength lines value → ∀ n, Integer.read (Text.trim value.decodeAscii) ≠ .ok n) :
    ∃ e, (headersOf lines).contentLength = .error e := by
  rcases exists_lastLength_or lines with ⟨value, hv⟩ | hnone
  · rw [contentLength_of_lastLength hv]
    cases he : Integer.read (Text.trim value.decodeAscii) with
    | error e => exact ⟨e, rfl⟩
    | ok n => exact absurd he (h value hv n)
  · have hlookup : (headersOf lines).lookup lengthKey = none := by
      rw [headersOf, lookup_foldl_of_not _ hnone, List.lookup_nil]
    rw [lengthKey] at hlookup
    rw [Headers.contentLength, hlookup]
    exact ⟨.malformed [], rfl⟩

theorem lengthless_of_contentLength {lines : List Bytes} {e : IntegerError}
    (h : (headersOf lines).contentLength = .error e) (value : Bytes) (hv : LastLength lines value) (n : Int) :
    Integer.read (Text.trim value.decodeAscii) ≠ .ok n := by
  intro hn
  rw [contentLength_of_lastLength hv, hn] at h
  cases h

/-- A block of headers: its lines as they stand before their line feeds, so that a carriage return there is
part of the line, and whether the blank line has one. -/
structure Block where
  lines : List Bytes
  isCrlf : Bool
  noFeed : ∀ l ∈ lines, 0x0A ∉ l
  notBlank : ∀ l ∈ lines, l ≠ [] ∧ l ≠ [0x0D]

namespace Block

/-- What stands on the blank line. -/
def blank (b : Block) : Bytes := if b.isCrlf then [0x0D] else []

def bytes (b : Block) : Bytes := b.lines.flatMap (· ++ [0x0A]) ++ b.blank ++ [0x0A]

def headers (b : Block) : Headers := headersOf b.lines

theorem not_mem_blank (b : Block) : 0x0A ∉ b.blank := by
  unfold blank
  split <;> decide

theorem isBlankLine_blank (b : Block) : isBlankLine b.blank.reverse := by
  unfold blank
  split <;> decide

end Block

theorem isBlankLine_reverse {line : Bytes} (h : line ≠ [] ∧ line ≠ [0x0D]) :
    isBlankLine line.reverse = false := by
  have hr : line.reverse ≠ [0x0D] := fun e => h.2 (List.reverse_eq_iff.1 e)
  simp only [isBlankLine, Bool.or_eq_false_iff, beq_eq_false_iff_ne]
  exact ⟨mt List.reverse_eq_nil_iff.1 h.1, hr⟩

/-- A reader goes on to the end of a line. -/
theorem readFrom_line (skipped : List Headers) (headers : Headers) {line : Bytes} (h : 0x0A ∉ line)
    (before rest : Bytes) :
    readFrom skipped headers before (line ++ rest) =
      readFrom skipped headers (line.reverse ++ before) rest := by
  induction line generalizing before with
  | nil => rfl
  | cons b line ih =>
    obtain ⟨hb, hl⟩ := not_or.1 (mt List.mem_cons.2 h)
    rw [List.cons_append, readFrom, if_neg (Ne.symm hb), ih hl, List.reverse_cons, List.append_assoc]
    rfl

/-- A line that is not blank is taken into the headers. -/
theorem readFrom_cons (skipped : List Headers) (headers : Headers) {line : Bytes} (hf : 0x0A ∉ line)
    (hb : line ≠ [] ∧ line ≠ [0x0D]) (rest : Bytes) :
    readFrom skipped headers [] (line ++ [0x0A] ++ rest) =
      readFrom skipped (headers.addLine line) [] rest := by
  rw [List.append_assoc, readFrom_line skipped headers hf, List.append_nil, List.singleton_append, readFrom,
    if_pos rfl, isBlankLine_reverse hb, List.reverse_reverse]
  rfl

theorem readFrom_lines (skipped : List Headers) (headers : Headers) {lines : List Bytes}
    (hf : ∀ l ∈ lines, 0x0A ∉ l) (hb : ∀ l ∈ lines, l ≠ [] ∧ l ≠ [0x0D]) (rest : Bytes) :
    readFrom skipped headers [] (lines.flatMap (· ++ [0x0A]) ++ rest) =
      readFrom skipped (lines.foldl Headers.addLine headers) [] rest := by
  induction lines generalizing headers with
  | nil => rfl
  | cons line lines ih =>
    obtain ⟨hfl, hfs⟩ := List.forall_mem_cons.1 hf
    obtain ⟨hbl, hbs⟩ := List.forall_mem_cons.1 hb
    rw [List.flatMap_cons, List.append_assoc, readFrom_cons skipped headers hfl hbl, ih _ hfs hbs,
      List.foldl_cons]

/-- Blocks that were skipped before come first and change nothing else. -/
theorem readFrom_skipped (skipped : List Headers) (headers : Headers) (line input : Bytes) :
    readFrom skipped headers line input =
      ⟨skipped.reverse ++ (readFrom [] headers line input).skipped,
        (readFrom [] headers line input).outcome⟩ := by
  induction input generalizing skipped headers line with
  | nil => simp only [readFrom, List.reverse_nil, List.append_nil]
  | cons b input ih =>
    simp only [readFrom]
    split
    · split
      · split
        · rw [ih (headers :: skipped), ih [headers]]
          simp only [List.reverse_cons, List.append_assoc, List.reverse_nil, List.nil_append]
        · simp only [List.reverse_nil, List.append_nil]
      · exact ih ..
    · exact ih ..

/-- A block is read up to its blank line; without a length it is skipped. -/
theorem read_block (b : Block) (rest : Bytes) :
    read (b.bytes ++ rest) =
      match b.headers.contentLength with
      | .error _ => ⟨b.headers :: (read rest).skipped, (read rest).outcome⟩
      | .ok length => ⟨[], takeBody length rest⟩ := by
  rw [read, Block.bytes, List.append_assoc, List.append_assoc, readFrom_lines [] [] b.noFeed b.notBlank,
    readFrom_line _ _ b.not_mem_blank, List.append_nil, List.singleton_append, readFrom, if_pos rfl,
    if_pos b.isBlankLine_blank]
  change (match b.headers.contentLength with | .error _ => _ | .ok length => _) = _
  cases b.headers.contentLength with
  | error e => exact readFrom_skipped [b.headers] [] [] rest
  | ok length => rfl

/-- What breaks off in a line or behind it. -/
theorem prefix_append_cons {α : Type} {cut line more : List α} {a : α} (h : cut <+: line ++ a :: more) :
    cut <+: line ∨ ∃ cut', cut = line ++ a :: cut' ∧ cut' <+: more := by
  rcases List.prefix_or_prefix_of_prefix h (List.prefix_append line (a :: more)) with hl | ⟨t, rfl⟩
  · exact .inl hl
  · rw [List.prefix_append_right_inj] at h
    cases t with
    | nil => exact .inl ⟨[], by simp only [List.append_nil]⟩
    | cons b cut' =>
      obtain ⟨rfl, hmore⟩ := List.cons_prefix_cons.1 h
      exact .inr ⟨cut', rfl, hmore⟩

theorem readFrom_of_prefix (skipped : List Headers) (headers : Headers) {cut line : Bytes} (hl : 0x0A ∉ line)
    (h : cut <+: line) : readFrom skipped headers [] cut = ⟨skipped.reverse, .ended⟩ := by
  rw [← List.append_nil cut, readFrom_line _ _ fun hm => hl (h.subset hm), readFrom]

theorem readFrom_cut (skipped : List Headers) (headers : Headers) {lines : List Bytes} {blank cut : Bytes}
    (hf : ∀ l ∈ lines, 0x0A ∉ l) (hb : ∀ l ∈ lines, l ≠ [] ∧ l ≠ [0x0D]) (hblank : 0x0A ∉ blank)
    (hcut : cut <+: lines.flatMap (· ++ [0x0A]) ++ blank ++ [0x0A])
    (hne : cut ≠ lines.flatMap (· ++ [0x0A]) ++ blank ++ [0x0A]) :
    readFrom skipped headers [] cut = ⟨skipped.reverse, .ended⟩ := by
  induction lines generalizing headers cut with
  | nil => exact readFrom_of_prefix _ _ hblank ((List.prefix_concat_iff.1 hcut).resolve_left hne)
  | cons line lines ih =>
    obtain ⟨hfl, hfs⟩ := List.forall_mem_cons.1 hf
    obtain ⟨hbl, hbs⟩ := List.forall_mem_cons.1 hb
    simp only [List.flatMap_cons, List.append_assoc, List.cons_append, List.nil_append] at hcut hne
    rcases prefix_append_cons hcut with hl | ⟨cut', rfl, hc⟩
    · exact readFrom_of_prefix _ _ hfl hl
    · rw [List.append_cons, readFrom_cons _ _ hfl hbl]
      refine ih _ hfs hbs ?_ fun e => hne ?_
      · simpa only [List.append_assoc] using hc
      · rw [e, List.append_assoc]

/-- Of a block that breaks off before its end nothing is read. -/
theorem read_cut (b : Block) {cut : Bytes} (h : cut <+: b.bytes) (hne : cut ≠ b.bytes) :
    read cut = ⟨[], .ended⟩ :=
  readFrom_cut [] [] b.noFeed b.notBlank b.not_mem_blank h hne

end LspEndpoint.Framing
