import LspEndpoint.Proofs.Framing.Frame
import LspEndpoint.Proofs.Text.Quoted

/-!
Streams of frames. A stream is a run of frames and of blocks without a length, and then as much of one more
frame as there was before it broke off. All bodies are read unaltered and in order, one line of the log is
written for each block without a length, and nothing is made of the frame that broke off.
-/
namespace LspEndpoint.Framing

/-- A block that declares the length of the body behind it in bytes; of several lengths the last one counts. -/
structure Frame extends Block where
  body : Text
  isScalar : body.isScalar
  declares : ∃ left right : Bytes, left.all isPadding ∧ right.all isPadding ∧
    LastLength lines (left ++ asciiBytes (Text.ofNat (body.flatMap CodePoint.utf8).length) ++ right)

/-- A block in which no integer is declared as the length. -/
structure Bare extends Block where
  lengthless : ∀ value, LastLength lines value → ∀ n, Integer.read (Text.trim value.decodeAscii) ≠ .ok n

namespace Frame

def payload (f : Frame) : Bytes := f.body.flatMap CodePoint.utf8

def bytes (f : Frame) : Bytes := f.toBlock.bytes ++ f.payload

/-- What is read as the length is the number of bytes, written in digits. -/
theorem contentLength_headers (f : Frame) :
    f.headers.contentLength = Integer.read (Text.ofNat f.payload.length) := by
  obtain ⟨left, right, hl, hr, h⟩ := f.declares
  exact contentLength_of_digits hl hr h

theorem contentLength_of_countable {f : Frame} (h : countable f.payload.length) :
    f.headers.contentLength = .ok (f.payload.length : Int) := by
  rw [contentLength_headers, Integer.read_ofNat (isShown_of_countable h)]

/-- A frame is read as its body, whatever follows it. -/
theorem read_append {f : Frame} (h : countable f.payload.length) (rest : Bytes) :
    read (f.bytes ++ rest) = ⟨[], .body f.body rest⟩ := by
  rw [bytes, List.append_assoc, read_block, contentLength_of_countable h]
  simp only [takeBody_append h]
  rw [payload, Bytes.decode_utf8 f.isScalar]

/-- What the writer makes of a text is a frame. -/
def ofBody (body : Text) (h : body.isScalar) : Frame where
  toBlock := lengthBlock (body.flatMap CodePoint.utf8).length
  body := body
  isScalar := h
  declares := ⟨[0x20], [0x0D], rfl, rfl, lastLength_lengthBlock _⟩

theorem bytes_ofBody (body : Text) (h : body.isScalar) :
    (ofBody body h).bytes = frameOf (body.flatMap CodePoint.utf8) :=
  (frameOf_eq _).symm

end Frame

/-- A block without a length changes nothing but the log. -/
theorem readAll_block {b : Block} {e : IntegerError} (he : b.headers.contentLength = .error e) (rest : Bytes) :
    readAll (b.bytes ++ rest) =
      ((readAll rest).1, b.headers :: (readAll rest).2.1, (readAll rest).2.2) := by
  have hb := read_block b rest
  rw [he] at hb
  rcases hr : read rest with ⟨skipped, outcome⟩
  simp only [hr] at hb
  cases outcome with
  | body text after => rw [readAll_of_body hb, readAll_of_body hr, List.cons_append]
  | _ => rw [readAll_of_stop hb nofun, readAll_of_stop hr nofun]

/-- What a stream is made of. -/
inductive Part
  | frame (f : Frame)
  | bare (b : Bare)

namespace Part

def bytes : Part → Bytes
  | frame f => f.bytes
  | bare b => b.bytes

def body? : Part → Option Text
  | frame f => some f.body
  | bare _ => none

def skipped? : Part → Option Headers
  | frame _ => none
  | bare b => some b.headers

end Part

/-- What is to be made of a stream of these parts: every body in order, for every block without a length one
line of the log that shows its headers, and after that the end of the input. -/
structure Delivers (parts : List Part) (r : List Text × List Headers × Outcome) : Prop where
  bodies : r.1 = parts.filterMap Part.body?
  skipped : r.2.1 = parts.filterMap Part.skipped?
  oneLine : ∀ h ∈ r.2.1, CodePoint.ofChar '\n' ∉ skippedMessage h
  ended : r.2.2 = .ended ∨ ∃ missing, r.2.2 = .truncated missing

/-- Whole parts are read one after the other. -/
theorem readAll_parts {parts : List Part} (h : ∀ f, Part.frame f ∈ parts → countable f.payload.length)
    (rest : Bytes) :
    readAll (parts.flatMap Part.bytes ++ rest) =
      (parts.filterMap Part.body? ++ (readAll rest).1, parts.filterMap Part.skipped? ++ (readAll rest).2.1,
        (readAll rest).2.2) := by
  induction parts with
  | nil => rfl
  | cons part parts ih =>
    have ih := ih fun f hf => h f (List.mem_cons_of_mem _ hf)
    rw [List.flatMap_cons, List.append_assoc]
    cases part with
    | frame f =>
      rw [Part.bytes, readAll_of_body (f.read_append (h f (List.mem_cons_self ..)) _), ih]
      rfl
    | bare b =>
      obtain ⟨e, he⟩ := contentLength_error b.lengthless
      rw [Part.bytes, readAll_block he, ih]
      rfl

/-- The line of the log for a block has no line feed inside. -/
theorem lineFeed_not_mem_skippedMessage (headers : Headers) :
    CodePoint.ofChar '\n' ∉ skippedMessage headers := by
  have hw : ∀ c ∈ Text.ofString "Skipping frame without a valid Content-Length: " ++ "\x7b" ++ "\x7d" ++
      ", " ++ ": ", c ≠ CodePoint.ofChar '\n' := by
    decide
  have hq {t : Text} (h : CodePoint.ofChar '\n' ∈ t.quoted) : False :=
    absurd (Text.space_le_of_mem_quoted h) (by decide)
  simp only [List.mem_append] at hw
  intro h
  simp only [skippedMessage, Headers.display, List.mem_append] at h
  rcases h with h | (h | h) | h
  · exact hw _ (.inl (.inl (.inl (.inl h)))) rfl
  · exact hw _ (.inl (.inl (.inl (.inr h)))) rfl
  · rcases Text.mem_joined h with h | ⟨t, ht, h⟩
    · exact hw _ (.inl (.inr h)) rfl
    · obtain ⟨entry, _, rfl⟩ := List.mem_map.1 ht
      simp only [List.mem_append] at h
      rcases h with (h | h) | h
      · exact hq h
      · exact hw _ (.inr h) rfl
      · exact hq h
  · exact hw _ (.inl (.inl (.inr h))) rfl

/-- Behind whole parts it is the rest that decides. -/
theorem delivers_parts_iff {parts : List Part} (h : ∀ f, Part.frame f ∈ parts → countable f.payload.length)
    (rest : Bytes) :
    Delivers parts (readAll (parts.flatMap Part.bytes ++ rest)) ↔ Delivers [] (readAll rest) := by
  rw [readAll_parts h]
  constructor
  · intro d
    exact ⟨List.append_right_eq_self.1 d.bodies, List.append_right_eq_self.1 d.skipped,
      fun h _ => lineFeed_not_mem_skippedMessage h, d.ended⟩
  · intro d
    exact ⟨by rw [d.bodies]; exact List.append_nil _, by rw [d.skipped]; exact List.append_nil _,
      fun h _ => lineFeed_not_mem_skippedMessage h, d.ended⟩

/-- A body that breaks off is not read, and how many bytes of it are missing is known. -/
theorem takeBody_truncated {length : Nat} (h : countable length) {bytes : Bytes} (hb : bytes.length < length) :
    takeBody length bytes = .truncated (length - bytes.length) := by
  have hl : ¬ (length : Int) < 0 := by omega
  simp only [takeBody, h, Bool.not_true, Bool.false_eq_true, if_false, hl, Int.toNat_natCast, hb, if_true]

theorem takeBody_overflow {length : Int} (h : ¬ countable length) (bytes : Bytes) :
    takeBody length bytes = .overflow := by
  rw [takeBody, if_pos (by simpa using h)]

section Cut

variable {last : Frame} {cut part : Bytes}

theorem readAll_cut_block (hcut : cut <+: last.toBlock.bytes) (hne : cut ≠ last.toBlock.bytes) :
    readAll cut = ([], [], .ended) :=
  readAll_of_stop (read_cut last.toBlock hcut hne) nofun

theorem readAll_cut_body (h : countable last.payload.length) (hpart : part.length < last.payload.length) :
    readAll (last.toBlock.bytes ++ part) = ([], [], .truncated (last.payload.length - part.length)) := by
  have hread := read_block last.toBlock part
  rw [last.contentLength_of_countable h] at hread
  simp only [takeBody_truncated h hpart] at hread
  exact readAll_of_stop hread nofun

/-- A length beyond what can be counted ends the reading in another way, or is refused, so that its block is
logged like one without a length. -/
theorem not_delivers_uncountable (h : ¬ countable last.payload.length) :
    ¬ Delivers [] (readAll (last.toBlock.bytes ++ part)) := by
  intro d
  cases hn : last.headers.contentLength with
  | error e =>
    have hskipped := d.skipped
    rw [readAll_block hn] at hskipped
    cases hskipped
  | ok length =>
    have hlength : length = last.payload.length := by
      rw [last.contentLength_headers, Integer.read_digits] at hn
      split at hn
      · cases hn
      · exact (Except.ok.inj hn).symm
    have hread := read_block last.toBlock part
    rw [hn, hlength] at hread
    simp only [takeBody_overflow h] at hread
    have hended := d.ended
    rw [readAll_of_stop hread nofun] at hended
    exact absurd hended (by simp)

/-- Nothing is made of a frame that breaks off, unless its whole block is there and declares a length beyond
what can be counted. -/
theorem delivers_cut_iff (hcut : cut <+: last.bytes) (hne : cut ≠ last.bytes) :
    Delivers [] (readAll cut) ↔ cut.length < last.toBlock.bytes.length ∨ countable last.payload.length := by
  by_cases hl : cut.length < last.toBlock.bytes.length
  · have hblock : cut <+: last.toBlock.bytes :=
      List.prefix_of_prefix_length_le hcut (List.prefix_append ..) (Nat.le_of_lt hl)
    rw [readAll_cut_block hblock fun e => absurd (congrArg List.length e) (Nat.ne_of_lt hl)]
    exact ⟨fun _ => .inl hl, fun _ => ⟨rfl, rfl, nofun, .inl rfl⟩⟩
  · obtain ⟨part, rfl⟩ := List.prefix_of_prefix_length_le (List.prefix_append last.toBlock.bytes _) hcut
      (Nat.le_of_not_lt hl)
    have hpart : part <+: last.payload := (List.prefix_append_right_inj _).1 hcut
    have hlt : part.length < last.payload.length :=
      Nat.lt_of_le_of_ne hpart.length_le fun e => hne (by rw [hpart.eq_of_length e, Frame.bytes])
    by_cases hc : countable last.payload.length
    · rw [readAll_cut_body hc hlt]
      exact ⟨fun _ => .inr hc, fun _ => ⟨rfl, rfl, nofun, .inr ⟨_, rfl⟩⟩⟩
    · exact ⟨fun d => (not_delivers_uncountable hc d).elim, fun h => (h.elim hl hc).elim⟩

end Cut

/-- Of a stream that breaks off in its last frame every whole frame is delivered and every block without a
length is logged, exactly if the last frame breaks off in its header block or has a body whose length can be
counted. -/
theorem delivers_iff {parts : List Part} (hparts : ∀ f, Part.frame f ∈ parts → countable f.payload.length)
    (last : Frame) {cut : Bytes} (hcut : cut <+: last.bytes) (hne : cut ≠ last.bytes) :
    Delivers parts (readAll (parts.flatMap Part.bytes ++ cut)) ↔
      cut.length < last.toBlock.bytes.length ∨ countable last.payload.length := by
  rw [delivers_parts_iff hparts, delivers_cut_iff hcut hne]

/-- A frame whose body reads like a header block, with the length declared in mixed case between other
lines. -/
def nestedFrame : Frame where
  lines := [asciiBytes "X-Note: 1", asciiBytes "\tcOnTeNt-LeNgTh :  27 \r", asciiBytes " \r"]
  isCrlf := false
  noFeed := by decide
  notBlank := by decide
  body := "Content-Length: 2\n\n\x7b\x7dé😀"
  isScalar := by decide
  declares := by
    refine ⟨asciiBytes "  ", asciiBytes " \r", by decide, by decide,
      [asciiBytes "X-Note: 1"], _, [asciiBytes " \r"], rfl, ?_, ?_⟩
    · exact ⟨asciiBytes "\t", asciiBytes " ", "cOnTeNt-LeNgTh", by decide, by decide, by decide, by decide⟩
    · rw [List.forall_mem_singleton]
      intro v hv
      have hnone : header? (asciiBytes " \r") = none := by decide
      rw [header?_of_hasLength hv] at hnone
      cases hnone

/-- A block whose last length is no integer. -/
def strayBlock : Bare where
  lines := [asciiBytes "Content-Length: 5", asciiBytes "content-length: 5x\r"]
  isCrlf := true
  noFeed := by decide
  notBlank := by decide
  lengthless := lengthless_of_contentLength (e := .malformed "5x") rfl

def nestedParts : List Part := [.frame nestedFrame, .bare strayBlock, .frame nestedFrame]

theorem delivers_nestedParts :
    (∀ f, Part.frame f ∈ nestedParts → countable f.payload.length) ∧
      nestedFrame.bytes.take 50 <+: nestedFrame.bytes ∧ nestedFrame.bytes.take 50 ≠ nestedFrame.bytes ∧
        Delivers nestedParts (readAll (nestedParts.flatMap Part.bytes ++ nestedFrame.bytes.take 50)) := by
  have hc : countable nestedFrame.payload.length := by decide
  have hparts : ∀ f, Part.frame f ∈ nestedParts → countable f.payload.length := by
    intro f hf
    simp only [nestedParts, List.mem_cons, Part.frame.injEq, reduceCtorEq, false_or, List.not_mem_nil,
      or_false, or_self] at hf
    rw [hf]
    exact hc
  have hcut : nestedFrame.bytes.take 50 <+: nestedFrame.bytes := List.take_prefix ..
  have hne : nestedFrame.bytes.take 50 ≠ nestedFrame.bytes := by decide
  exact ⟨hparts, hcut, hne, (delivers_iff hparts nestedFrame hcut hne).2 (.inr hc)⟩

/-- A frame with a body of that many equal letters. -/
def uniformFrame (n : Nat) : Frame :=
  .ofBody (List.replicate n (CodePoint.ofChar 'a'))
    (by rw [Text.isScalar, List.all_replicate]; split <;> decide)

theorem bytes_uniformFrame (n : Nat) :
    (uniformFrame n).bytes =
      asciiBytes ("Content-Length: " ++ Text.ofNat n ++ "\r\n\r\n") ++ List.replicate n 0x61 := by
  have hletter : (CodePoint.ofChar 'a').utf8 = [0x61] := by decide
  have hbody : (List.replicate n (CodePoint.ofChar 'a')).flatMap CodePoint.utf8 = List.replicate n 0x61 := by
    rw [List.flatMap_replicate, hletter, List.flatten_replicate_singleton]
  rw [uniformFrame, Frame.bytes_ofBody, hbody, frameOf, List.length_replicate]

/-- The least length that cannot be counted. -/
def uncountableLength : Nat := 0x8000000000000000

/-- The header block of a frame of that length. -/
def uncountableBlock : Bytes := asciiBytes "Content-Length: 9223372036854775808\r\n\r\n"

theorem readAll_uncountableBlock :
    (uncountableBlock <+: (uniformFrame uncountableLength).bytes ∧
        uncountableBlock ≠ (uniformFrame uncountableLength).bytes) ∧
      readAll uncountableBlock = ([], [], .overflow) ∧ ¬ Delivers [] (readAll uncountableBlock) := by
  have hblock : asciiBytes ("Content-Length: " ++ Text.ofNat uncountableLength ++ "\r\n\r\n") =
      uncountableBlock := by
    decide
  have hbytes := bytes_uniformFrame uncountableLength
  rw [hblock] at hbytes
  have hpos : 0 < uncountableLength := by decide
  have hread : read uncountableBlock = ⟨[], .overflow⟩ := by decide
  have hall : readAll uncountableBlock = ([], [], .overflow) := readAll_of_stop hread nofun
  -- The body stays a variable, so that its letters are never written out.
  generalize (uniformFrame uncountableLength).bytes = bytes at hbytes ⊢
  generalize uncountableLength = n at hbytes hpos
  refine ⟨⟨⟨_, hbytes.symm⟩, fun e => ?_⟩, hall, fun d => ?_⟩
  · have hl := congrArg List.length (e.trans hbytes)
    rw [List.length_append, List.length_replicate] at hl
    omega
  · have hended := d.ended
    rw [hall] at hended
    exact absurd hended (by simp)

end LspEndpoint.Framing
