import Mathlib.Data.List.TakeWhile
import LspEndpoint.Proofs.Framing.Declared

/-!
Reading ends. A reader asks for one line after the other, and any of these may fail. Every line takes bytes, so that no
stream is asked for more lines than it has bytes and one. A reader that is done has a body and took bytes for it, or has
none, unless a block that it came to declares a length that cannot be counted.
-/
namespace LspEndpoint.Framing

/-- Where a reader is between two lines: the blocks skipped, held backwards, the headers of the block it is in, and the
bytes that are left. -/
structure Scan where
  skipped : List Headers
  headers : Headers
  input : Bytes
deriving DecidableEq

namespace Scan

def start (input : Bytes) : Scan := ⟨[], [], input⟩

/-- A read that ends here without a body. -/
def ended (s : Scan) : Read := ⟨s.skipped.reverse, .ended⟩

/-- All that is read from here on, if no line fails. -/
def read (s : Scan) : Read := readFrom s.skipped s.headers [] s.input

end Scan

/-- What a line makes of a reader: it goes on or is done. -/
inductive Pass
  | on (s : Scan)
  | done (r : Read)
deriving DecidableEq

/-- One line of the input, which is the rest of it where no line feed is left, and no bytes at its end. -/
def Scan.pass (s : Scan) : Pass :=
  let line := s.input.takeWhile (· != 0x0A)
  match s.input.dropWhile (· != 0x0A) with
  | [] => if line = [] then .done s.ended else .on ⟨s.skipped, s.headers.addLine line, []⟩
  | _ :: rest =>
    if isBlankLine line.reverse then
      match s.headers.contentLength with
      | .error _ => .on ⟨s.headers :: s.skipped, [], rest⟩
      | .ok length => .done ⟨s.skipped.reverse, takeBody length rest⟩
    else .on ⟨s.skipped, s.headers.addLine line, rest⟩

/-- Every byte before the line feed stands in the line. -/
theorem ne_feed_of_mem {line : Bytes} (hl : 0x0A ∉ line) (b : UInt8) (hb : b ∈ line) : (b != 0x0A) = true :=
  bne_iff_ne.2 (ne_of_mem_of_not_mem hb hl)

theorem pass_line (skipped : List Headers) (headers : Headers) {line : Bytes} (hl : 0x0A ∉ line) (rest : Bytes) :
    (Scan.mk skipped headers (line ++ 0x0A :: rest)).pass =
      if isBlankLine line.reverse then
        match headers.contentLength with
        | .error _ => .on ⟨headers :: skipped, [], rest⟩
        | .ok length => .done ⟨skipped.reverse, takeBody length rest⟩
      else .on ⟨skipped, headers.addLine line, rest⟩ := by
  have htake : (line ++ 0x0A :: rest).takeWhile (· != 0x0A) = line := by
    rw [List.takeWhile_append_of_pos (ne_feed_of_mem hl)]
    simp
  have hdrop : (line ++ 0x0A :: rest).dropWhile (· != 0x0A) = 0x0A :: rest := by
    rw [List.dropWhile_append_of_pos (ne_feed_of_mem hl)]
    simp
  simp only [Scan.pass, htake, hdrop]

theorem pass_header (skipped : List Headers) (headers : Headers) {line : Bytes} (hl : 0x0A ∉ line)
    (hb : line ≠ [] ∧ line ≠ [0x0D]) (rest : Bytes) :
    (Scan.mk skipped headers (line ++ 0x0A :: rest)).pass = .on ⟨skipped, headers.addLine line, rest⟩ := by
  rw [pass_line skipped headers hl, isBlankLine_reverse hb]
  rfl

/-- The last line of the input has no line feed. -/
theorem pass_last (skipped : List Headers) (headers : Headers) {line : Bytes} (hl : 0x0A ∉ line) :
    (Scan.mk skipped headers line).pass =
      if line = [] then .done ⟨skipped.reverse, .ended⟩ else .on ⟨skipped, headers.addLine line, []⟩ := by
  have htake := List.takeWhile_eq_self_iff.2 (ne_feed_of_mem hl)
  have hdrop := List.dropWhile_eq_nil_iff.2 (ne_feed_of_mem hl)
  simp only [Scan.pass, htake, hdrop]
  rfl

namespace Scan

/-- A reader that goes on took at least one byte. -/
theorem exists_taken {s t : Scan} (h : s.pass = .on t) :
    ∃ taken : Bytes, taken ≠ [] ∧ s.input = taken ++ t.input := by
  obtain ⟨skipped, headers, input⟩ := s
  rcases exists_line_or input with ⟨line, rest, hl, rfl⟩ | hnone
  · have hrest : t.input = rest := by
      rw [pass_line skipped headers hl] at h
      repeat' split at h
      all_goals cases h
      all_goals rfl
    exact ⟨line ++ [0x0A], by simp, by simp [hrest]⟩
  · rw [pass_last skipped headers hnone] at h
    split at h
    · cases h
    · rename_i hne
      cases h
      exact ⟨input, hne, (List.append_nil input).symm⟩

theorem length_lt {s t : Scan} (h : s.pass = .on t) : t.input.length < s.input.length := by
  obtain ⟨taken, hne, hs⟩ := exists_taken h
  have hpos := List.length_pos_iff.2 hne
  rw [hs, List.length_append]
  omega

/-- Line by line a reader reads what it reads at once. -/
theorem read_eq (s : Scan) :
    s.read =
      match s.pass with
      | .on t => t.read
      | .done r => r := by
  obtain ⟨skipped, headers, input⟩ := s
  rcases exists_line_or input with ⟨line, rest, hl, rfl⟩ | hnone
  · rw [pass_line skipped headers hl, read, readFrom_line _ _ hl, List.append_nil, readFrom, if_pos rfl,
      List.reverse_reverse]
    by_cases hblank : isBlankLine line.reverse
    · rw [if_pos hblank, if_pos hblank]
      cases headers.contentLength <;> rfl
    · rw [if_neg hblank, if_neg hblank]
      rfl
  · have hend : (Scan.mk skipped headers input).read = ⟨skipped.reverse, .ended⟩ :=
      readFrom_of_prefix _ _ hnone (List.prefix_refl _)
    rw [pass_last skipped headers hnone, hend]
    by_cases hnil : input = []
    · rw [if_pos hnil]
    · rw [if_neg hnil]
      rfl

theorem read_of_pass_on {s t : Scan} (h : s.pass = .on t) : s.read = t.read := by
  rw [read_eq, h]

theorem read_of_pass_done {s : Scan} {r : Read} (h : s.pass = .done r) : s.read = r := by
  rw [read_eq, h]

end Scan

/-- None of the lines from the first on fails, up to the one behind the last. -/
def Unfailing (fails : Nat → Bool) (first behind : Nat) : Prop := ∀ i, first ≤ i → i < behind → fails i = false

namespace Unfailing

variable {fails : Nat → Bool} {first behind : Nat}

theorem empty (fails : Nat → Bool) (first : Nat) : Unfailing fails first first :=
  fun _ hi hlt => absurd hi (Nat.not_le_of_lt hlt)

theorem mono (h : Unfailing fails first behind) {first' behind' : Nat} (hf : first ≤ first')
    (hb : behind' ≤ behind) : Unfailing fails first' behind' :=
  fun i hi hlt => h i (Nat.le_trans hf hi) (Nat.lt_of_lt_of_le hlt hb)

theorem cons (h : fails first = false) (hs : Unfailing fails (first + 1) behind) : Unfailing fails first behind := by
  intro i hi hlt
  by_cases he : i = first
  · rw [he, h]
  · exact hs i (by omega) hlt

theorem concat (hs : Unfailing fails first behind) (h : fails behind = false) :
    Unfailing fails first (behind + 1) := by
  intro i hi hlt
  by_cases he : i = behind
  · rw [he, h]
  · exact hs i hi (by omega)

theorem not_of_fails {i : Nat} (hi : first ≤ i) (hlt : i < behind) (h : fails i = true) :
    ¬ Unfailing fails first behind := by
  intro hs
  rw [hs i hi hlt] at h
  cases h

end Unfailing

/-- A reader that has asked for so many lines ends when it has asked for so many and has read this; these are the lines
that fail. -/
inductive Ends (fails : Nat → Bool) : Nat → Scan → Nat → Read → Prop
  | failed {asked : Nat} {s : Scan} (line : fails asked = true) : Ends fails asked s (asked + 1) s.ended
  | done {asked : Nat} {s : Scan} {r : Read} (line : fails asked = false) (pass : s.pass = .done r) :
      Ends fails asked s (asked + 1) r
  | on {asked n : Nat} {s t : Scan} {r : Read} (line : fails asked = false) (pass : s.pass = .on t)
      (behind : Ends fails (asked + 1) t n r) : Ends fails asked s n r

section Ends

variable {fails : Nat → Bool} {asked n : Nat} {s : Scan} {r : Read}

/-- Every reader ends, with at most one line for each byte and one more. -/
theorem exists_ends (fails : Nat → Bool) (asked : Nat) (s : Scan) :
    ∃ n r, n ≤ asked + s.input.length + 1 ∧ Ends fails asked s n r := by
  induction hlen : s.input.length using Nat.strongRecOn generalizing asked s with
  | ind len ih =>
    cases hline : fails asked with
    | true => exact ⟨asked + 1, s.ended, by omega, .failed hline⟩
    | false =>
      cases hpass : s.pass with
      | done r => exact ⟨asked + 1, r, by omega, .done hline hpass⟩
      | on t =>
        have hlt := Scan.length_lt hpass
        rw [hlen] at hlt
        obtain ⟨n, r, hn, hr⟩ := ih t.input.length hlt (asked + 1) t rfl
        exact ⟨n, r, by omega, .on hline hpass hr⟩

/-- A reader ends in one way. -/
theorem Ends.unique (h : Ends fails asked s n r) {n' : Nat} {r' : Read} (h' : Ends fails asked s n' r') :
    n' = n ∧ r' = r := by
  induction h with
  | failed line =>
    cases h' with
    | failed => exact ⟨rfl, rfl⟩
    | done line' | on line' => simp [line] at line'
  | done line pass =>
    cases h' with
    | failed line' => simp [line] at line'
    | done _ pass' =>
      rw [pass] at pass'
      cases pass'
      exact ⟨rfl, rfl⟩
    | on _ pass' =>
      rw [pass] at pass'
      cases pass'
  | on line pass _ ih =>
    cases h' with
    | failed line' => simp [line] at line'
    | done _ pass' =>
      rw [pass] at pass'
      cases pass'
    | on _ pass' behind' =>
      rw [pass] at pass'
      cases pass'
      exact ih behind'

/-- A line that fails is the last one, and nothing is read then; if none fails, all is read. -/
theorem Ends.eq_or (h : Ends fails asked s n r) :
    ¬ Unfailing fails asked n ∧ r.outcome = .ended ∨ Unfailing fails asked n ∧ r = s.read := by
  induction h with
  | failed line =>
    left
    exact ⟨Unfailing.not_of_fails (Nat.le_refl _) (Nat.lt_succ_self _) line, rfl⟩
  | @done asked s r line pass =>
    right
    exact ⟨(Unfailing.empty fails asked).concat line, (Scan.read_of_pass_done pass).symm⟩
  | on line pass _ ih =>
    rcases ih with ⟨hnot, hended⟩ | ⟨hall, hread⟩
    · left
      exact ⟨fun hs => hnot (hs.mono (Nat.le_succ _) (Nat.le_refl _)), hended⟩
    · right
      exact ⟨hall.cons line, hread.trans (Scan.read_of_pass_on pass).symm⟩

end Ends

section Block

variable {fails : Nat → Bool} {asked n : Nat} {r : Read}

/-- The lines of a block that stand there are all taken in, unless one of them fails. -/
theorem Ends.lines {skipped : List Headers} {headers : Headers} {lines : List Bytes} {rest : Bytes}
    (hf : ∀ l ∈ lines, 0x0A ∉ l) (hb : ∀ l ∈ lines, l ≠ [] ∧ l ≠ [0x0D])
    (h : Ends fails asked ⟨skipped, headers, lines.flatMap (· ++ [0x0A]) ++ rest⟩ n r) :
    ¬ Unfailing fails asked (asked + lines.length) ∧ r.outcome = .ended ∨
      Unfailing fails asked (asked + lines.length) ∧
        Ends fails (asked + lines.length) ⟨skipped, lines.foldl Headers.addLine headers, rest⟩ n r := by
  induction lines generalizing asked headers with
  | nil =>
    right
    exact ⟨.empty fails asked, h⟩
  | cons line lines ih =>
    obtain ⟨hfl, hfs⟩ := List.forall_mem_cons.1 hf
    obtain ⟨hbl, hbs⟩ := List.forall_mem_cons.1 hb
    have hlength : asked + (line :: lines).length = asked + 1 + lines.length := by
      rw [List.length_cons]
      omega
    rw [hlength]
    rw [List.flatMap_cons, List.append_assoc, List.append_assoc, List.singleton_append] at h
    cases h with
    | failed hline =>
      left
      exact ⟨Unfailing.not_of_fails (Nat.le_refl _) (by omega) hline, rfl⟩
    | done _ pass =>
      rw [pass_header skipped headers hfl hbl] at pass
      cases pass
    | on hline pass behind =>
      rw [pass_header skipped headers hfl hbl] at pass
      cases pass
      rcases ih hfs hbs behind with ⟨hnot, hended⟩ | ⟨hall, hends⟩
      · left
        exact ⟨fun hs => hnot (hs.mono (Nat.le_succ _) (Nat.le_refl _)), hended⟩
      · right
        exact ⟨hall.cons hline, hends⟩

/-- The lines of a block and the blank one behind them do not fail. -/
def Block.Stands (b : Block) (fails : Nat → Bool) (asked : Nat) : Prop :=
  Unfailing fails asked (asked + b.lines.length + 1)

/-- What becomes of a reader before a block: a line fails, the block has a length, or it goes on behind the block. -/
theorem Ends.block {b : Block} {skipped : List Headers} {rest : Bytes}
    (h : Ends fails asked ⟨skipped, [], b.bytes ++ rest⟩ n r) :
    ¬ b.Stands fails asked ∧ r.outcome = .ended ∨
      b.Stands fails asked ∧
        ((∃ m, b.Declares m ∧ r.outcome = takeBody m rest) ∨
          (∀ m, ¬ b.Declares m) ∧
            Ends fails (asked + b.lines.length + 1) ⟨b.headers :: skipped, [], rest⟩ n r) := by
  rw [Block.bytes, List.append_assoc, List.append_assoc, List.singleton_append] at h
  rcases h.lines b.noFeed b.notBlank with ⟨hnot, hended⟩ | ⟨hall, hblank⟩
  · left
    exact ⟨fun hs => hnot (hs.mono (Nat.le_refl _) (Nat.le_succ _)), hended⟩
  · have hpass := pass_line skipped b.headers b.not_mem_blank rest
    rw [if_pos b.isBlankLine_blank] at hpass
    cases hblank with
    | failed hline =>
      left
      exact ⟨Unfailing.not_of_fails (Nat.le_add_right ..) (Nat.lt_succ_self _) hline, rfl⟩
    | done hline pass =>
      refine .inr ⟨hall.concat hline, .inl ?_⟩
      rcases b.declares_or with ⟨m, hm⟩ | ⟨-, e, he⟩
      · rw [Block.declares_iff.1 hm] at hpass
        cases hpass.symm.trans pass
        exact ⟨m, hm, rfl⟩
      · rw [he] at hpass
        cases hpass.symm.trans pass
    | on hline pass behind =>
      refine .inr ⟨hall.concat hline, .inr ?_⟩
      rcases b.declares_or with ⟨m, hm⟩ | ⟨hnot, e, he⟩
      · rw [Block.declares_iff.1 hm] at hpass
        cases hpass.symm.trans pass
      · rw [he] at hpass
        cases hpass.symm.trans pass
        exact ⟨hnot, behind⟩

/-- A reader comes to the end of the block: it stands first or behind blocks without a length, and no line up to its
end fails. -/
inductive Meets (fails : Nat → Bool) : Nat → Bytes → Block → Prop
  | here {asked : Nat} {b : Block} (rest : Bytes) (stands : b.Stands fails asked) :
      Meets fails asked (b.bytes ++ rest) b
  | behind {asked : Nat} {b last : Block} {rest : Bytes} (stands : b.Stands fails asked)
      (lengthless : ∀ m, ¬ b.Declares m) (met : Meets fails (asked + b.lines.length + 1) rest last) :
      Meets fails asked (b.bytes ++ rest) last

theorem takeBody_eq_overflow_iff {length : Int} {bytes : Bytes} :
    takeBody length bytes = .overflow ↔ ¬ countable length := by
  constructor
  · intro h hc
    unfold takeBody at h
    rw [hc] at h
    repeat' split at h
    all_goals simp_all
  · intro hc
    exact takeBody_overflow hc bytes

/-- A read that stops at a length that cannot be counted came to a block that declares it. -/
theorem Ends.exists_meets {skipped : List Headers} {input : Bytes} (h : Ends fails asked ⟨skipped, [], input⟩ n r)
    (ho : r.outcome = .overflow) : ∃ b, Meets fails asked input b ∧ ∃ m, b.Declares m ∧ ¬ countable m := by
  induction hlen : input.length using Nat.strongRecOn generalizing asked skipped input with
  | ind len ih =>
    rcases exists_block_or input with ⟨b, rest, rfl⟩ | hend
    · rcases h.block with ⟨-, hended⟩ | ⟨hstands, ⟨m, hm, hbody⟩ | ⟨hnot, hbehind⟩⟩
      · rw [ho] at hended
        cases hended
      · rw [ho] at hbody
        exact ⟨b, .here rest hstands, m, hm, takeBody_eq_overflow_iff.1 hbody.symm⟩
      · have hshort : rest.length < len := by
          rw [← hlen, List.length_append, Block.bytes, List.length_append, List.length_singleton]
          omega
        obtain ⟨last, hmet, hlast⟩ := ih rest.length hshort hbehind rfl
        exact ⟨last, .behind hstands hnot hmet, hlast⟩
    · have hended : r.outcome = .ended := by
        rcases h.eq_or with ⟨-, hended⟩ | ⟨-, hread⟩
        · exact hended
        · rw [hread, Scan.read, readFrom_skipped, hend]
      rw [ho] at hended
      cases hended

/-- A reader that comes to a length that cannot be counted stops there. -/
theorem Ends.overflow_of_meets {skipped : List Headers} {input : Bytes} {b : Block} {m : Int}
    (h : Ends fails asked ⟨skipped, [], input⟩ n r) (hmet : Meets fails asked input b) (hm : b.Declares m)
    (hc : ¬ countable m) : r.outcome = .overflow := by
  induction hmet generalizing skipped with
  | here rest stands =>
    rcases h.block with ⟨hnot, -⟩ | ⟨-, ⟨m', hm', hbody⟩ | ⟨hnot, -⟩⟩
    · exact absurd stands hnot
    · rw [hbody, hm'.unique hm, takeBody_overflow hc]
    · exact absurd hm (hnot m)
  | behind stands lengthless _ ih =>
    rcases h.block with ⟨hnot, -⟩ | ⟨-, ⟨m', hm', -⟩ | ⟨-, hbehind⟩⟩
    · exact absurd stands hnot
    · exact absurd hm' (lengthless m')
    · exact ih hbehind hm

end Block

theorem suffix_takeBody {length : Int} {bytes : Bytes} {text : Text} {rest : Bytes}
    (h : takeBody length bytes = .body text rest) : rest <:+ bytes := by
  unfold takeBody at h
  repeat' split at h
  all_goals cases h
  · exact List.nil_suffix
  · exact List.drop_suffix _ bytes

/-- What is left behind a body stands at the end of the input. -/
theorem suffix_readFrom {skipped : List Headers} {headers : Headers} {line input : Bytes} {text : Text} {rest : Bytes}
    (h : (readFrom skipped headers line input).outcome = .body text rest) : rest <:+ input := by
  induction input generalizing skipped headers line with
  | nil => cases h
  | cons b input ih =>
    have hcons : input <:+ b :: input := List.suffix_cons b input
    simp only [readFrom] at h
    repeat' split at h
    · exact (ih h).trans hcons
    · exact (suffix_takeBody h).trans hcons
    · exact (ih h).trans hcons
    · exact (ih h).trans hcons

/-- A reader gives back a body, for which it took bytes from the front of the input, or nothing, and does not fail. -/
def Read.Returns (r : Read) (input : Bytes) : Prop :=
  match r.outcome with
  | .body _ rest => rest <:+ input ∧ rest.length < input.length
  | .ended | .truncated _ => True
  | .overflow => False

/-- Nothing but a length that cannot be counted makes a reader fail. -/
theorem Ends.returns_iff {fails : Nat → Bool} {asked n : Nat} {s : Scan} {r : Read} (h : Ends fails asked s n r) :
    r.Returns s.input ↔ r.outcome ≠ .overflow := by
  unfold Read.Returns
  split
  · rename_i text rest ho
    rcases h.eq_or with ⟨-, hended⟩ | ⟨-, rfl⟩
    · rw [ho] at hended
      cases hended
    · rw [ho]
      exact ⟨nofun, fun _ => ⟨suffix_readFrom ho, length_readFrom ho⟩⟩
  all_goals simp_all

/-- Whatever the input is and whichever lines fail, a reader ends, in one way and with at most one line for each byte
and one more; it reads what there is if no line fails, and nothing if one does. It does not fail, and takes at least one
byte for a body, exactly if every length can be counted that is declared by a block whose end it comes to. -/
theorem reading_ends (fails : Nat → Bool) (asked : Nat) (input : Bytes) :
    ∃ n r, n ≤ asked + input.length + 1 ∧ Ends fails asked (.start input) n r ∧
      (∀ n' r', Ends fails asked (.start input) n' r' → n' = n ∧ r' = r) ∧
      (Unfailing fails asked n → r = read input) ∧ (¬ Unfailing fails asked n → r.outcome = .ended) ∧
      (r.Returns input ↔ ∀ b, Meets fails asked input b → ∀ m, b.Declares m → countable m) := by
  obtain ⟨n, r, hn, h⟩ := exists_ends fails asked (.start input)
  refine ⟨n, r, hn, h, fun n' r' h' => h.unique h', ?_, ?_, ?_⟩
  · intro hall
    rcases h.eq_or with ⟨hnot, -⟩ | ⟨-, hread⟩
    · exact absurd hall hnot
    · exact hread
  · intro hnot
    rcases h.eq_or with ⟨-, hended⟩ | ⟨hall, -⟩
    · exact hended
    · exact absurd hall hnot
  · have hover : r.Returns input ↔ ¬ r.outcome = .overflow := h.returns_iff
    rw [hover]
    constructor
    · intro hnone b hb m hm
      by_contra hc
      exact hnone (h.overflow_of_meets hb hm hc)
    · intro hall ho
      obtain ⟨b, hb, m, hm, hc⟩ := h.exists_meets ho
      exact hc (hall b hb m hm)

/-- A header line that declares the least length that cannot be counted, and a blank line. -/
def overlongLength : Bytes := asciiBytes "Content-Length: 9223372036854775808\n\n"

theorem not_returns_overlongLength :
    Ends (fun _ => false) 0 (.start overlongLength) 2 ⟨[], .overflow⟩ ∧
      ¬ ∃ n r, Ends (fun _ => false) 0 (.start overlongLength) n r ∧ r.Returns overlongLength := by
  let headers : Headers := [("content-length", "9223372036854775808")]
  have hfirst : (Scan.start overlongLength).pass = .on ⟨[], headers, [0x0A]⟩ := by decide
  have hsecond : (Scan.mk [] headers [0x0A]).pass = .done ⟨[], .overflow⟩ := by decide
  have hends : Ends (fun _ => false) 0 (.start overlongLength) 2 ⟨[], .overflow⟩ :=
    .on rfl hfirst (.done rfl hsecond)
  refine ⟨hends, ?_⟩
  rintro ⟨n, r, hr, hreturns⟩
  obtain ⟨-, rfl⟩ := hends.unique hr
  exact hreturns

end LspEndpoint.Framing
