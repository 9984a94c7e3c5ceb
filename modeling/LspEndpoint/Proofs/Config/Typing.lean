import LspEndpoint.Proofs.Config.Reading

/-!
The types of settings that are accepted. What is written for them decides whether the others can rely on them: a name is
taken as it is, of whatever kind; a command of blanks alone comes to no words at all; and what is no number passes for a
time. All else that is accepted is well typed.
-/
namespace LspEndpoint

namespace Text

theorem wordsFrom_eq_nil {word t : Text} : wordsFrom word t = [] ↔ word = [] ∧ ∀ c ∈ t, c.isBlank := by
  induction t generalizing word with
  | nil => cases word <;> simp [wordsFrom]
  | cons c t ih =>
    rw [wordsFrom, List.forall_mem_cons]
    cases hc : c.isBlank with
    | false => simp [ih]
    | true => cases word <;> simp [ih]

/-- Only a text of blanks has no words. -/
theorem words_eq_nil {t : Text} : t.words = [] ↔ ∀ c ∈ t, c.isBlank := by
  rw [words, wordsFrom_eq_nil, eq_self, true_and]

end Text

namespace Binary64

/-- Above zero, which what is no number is not. -/
def isPositive : Binary64 → Bool
  | nan => false
  | infinite negative => !negative
  | finite negative rank => !negative && rank.val != 0

theorem isPositive_eq_true {x : Binary64} (h : x.atMostZero = false) : x.isPositive ↔ x ≠ .nan := by
  cases x with
  | nan => simp [isPositive]
  | infinite negative => simpa [isPositive, atMostZero] using h
  | finite negative rank =>
    simp only [atMostZero, Bool.or_eq_false_iff] at h
    simp [isPositive, h.1, bne, h.2]

theorem floorLog2_one {n : Nat} (h : n ≠ 0) : floorLog2 n 1 = n.log2 := by
  have hs : scaled n 1 (n.log2 : Int) = (n, Nat.pow 2 n.log2) := by
    rw [scaled, if_pos (Int.natCast_nonneg _), Int.toNat_natCast, Nat.one_mul]
  have hle : Nat.pow 2 n.log2 ≤ n := Nat.log2_self_le h
  have hlog : (Nat.log2 1 : Int) = 0 := by decide
  simp only [floorLog2, hlog, Int.sub_zero, hs, hle, if_true]

/-- A whole number above zero is not rounded to zero. -/
theorem rankOfRatio_one_pos {n : Nat} (h : n ≠ 0) : 0 < rankOfRatio n 1 := by
  have hexponent : (1 : Int) ≤ max ((n.log2 : Int) - 52) (-1074) + 1074 := by omega
  have hbinade : 0 < binade := by decide
  rw [rankOfRatio, if_neg h, floorLog2_one h]
  refine Nat.add_pos_left (Nat.mul_pos ?_ hbinade) _
  exact Int.lt_toNat.2 hexponent

theorem isPositive_ofInt {n : Int} (h : 0 < n) : (ofInt n).isPositive := by
  have hrank : 0 < rankOfRatio n.natAbs 1 := rankOfRatio_one_pos (by omega)
  have hsign : decide (n < 0) = false := decide_eq_false (by omega)
  rw [ofInt, ofRatio, ofRank, hsign]
  split
  · simpa [isPositive] using Nat.ne_of_gt hrank
  · rfl

end Binary64

namespace Config

/-- Settings on whose types the others can rely: the name is a text, a command has words, and a time is above zero. The
version, the file of the trace and the limits cannot be of any other type. -/
structure IsWellTyped (c : Config) : Prop where
  name : ∃ t, c.name = .text t
  openCommand : c.openCommand ≠ some []
  timeout : ∀ x, c.timeout = some x → x.isPositive

variable {v : Datum}

theorem CommandReads.ne_nil_iff {command : Option (List Text)} (h : CommandReads v command) :
    command ≠ some [] ↔ ∀ t, v = .text t → ∃ c ∈ t, c.isBlank = false := by
  cases h with
  | null => simp
  | list hne => simpa using hne
  | text t => simp [Text.words_eq_nil]

theorem TimeReads.isPositive_iff {time : Option Binary64} (h : TimeReads v time) :
    (∀ x, time = some x → x.isPositive) ↔ v ≠ .float .nan := by
  cases h with
  | null => simp
  | int hpos => simp [Binary64.isPositive_ofInt hpos]
  | float hx => simp [Binary64.isPositive_eq_true hx]

/-- Settings that are accepted are well typed exactly if the name is written as a text, a command that is written as a
text is not blank, and the time is not written as what is no number. -/
theorem isWellTyped_iff {e : Environment} {all : Section} {c : Config} (h : ofMapping e all = .ok c) :
    c.IsWellTyped ↔
      (∃ t, Key.name.value all = .text t) ∧
        (∀ t, Key.openCommand.value all = .text t → ∃ ch ∈ t, ch.isBlank = false) ∧
          Key.timeout.value all ≠ .float .nan := by
  have hread := ofMapping_eq_ok.1 h
  have hcommand := (readOpenCommand_eq_ok.1 hread.openCommand).ne_nil_iff
  have htime := (readTimeout_eq_ok.1 hread.timeout).isPositive_iff
  rw [← hcommand, ← htime, ← hread.name]
  constructor
  · exact fun hc => ⟨hc.name, hc.openCommand, hc.timeout⟩
  · exact fun ⟨hname, hwords, hpositive⟩ => ⟨hname, hwords, hpositive⟩

/-- A mapping with a command in one text and a time in whole seconds. -/
def plainMapping : Section :=
  [(.text "commands", .map [(.text "open_command", .text "raco run"), (.text "timeout", .int 3)])]

theorem isWellTyped_plainMapping :
    ∃ c, ofMapping bareEnvironment plainMapping = .ok c ∧
      c.openCommand = some [Text.ofString "raco", Text.ofString "run"] ∧ c.IsWellTyped := by
  have h : ofMapping bareEnvironment plainMapping =
      .ok { Config.default with
        openCommand := some [Text.ofString "raco", Text.ofString "run"]
        timeout := some (.ofInt 3) } := rfl
  refine ⟨_, h, rfl, (isWellTyped_iff h).2 ⟨⟨_, rfl⟩, fun t ht => ?_, fun hn => ?_⟩⟩
  · cases ht
    exact ⟨CodePoint.ofChar 'r', by decide, by decide⟩
  · cases hn

/-- A mapping whose time is no number. -/
def nanMapping : Section := [(.text "commands", .map [(.text "timeout", .float .nan)])]

theorem not_isWellTyped_nanMapping :
    ∃ c, ofMapping bareEnvironment nanMapping = .ok c ∧ c.timeout = some .nan ∧ ¬ c.IsWellTyped := by
  refine ⟨{ Config.default with timeout := some .nan }, rfl, rfl, fun h => ?_⟩
  cases h.timeout .nan rfl

end Config

end LspEndpoint
