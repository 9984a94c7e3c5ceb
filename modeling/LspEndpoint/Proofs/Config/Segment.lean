import Mathlib.Data.List.Infix
import LspEndpoint.Proofs.Config.Reference

/-!
Texts that are put together from segments. A segment is a literal or a reference, and literals that stand side by side do
not make up the beginning of a reference between them. However such a text is cut into segments, it is expanded segment by
segment: a literal stays, and a reference is replaced by the value of its variable, which is not looked into.
-/
namespace LspEndpoint.Environment

/-- A part of a text: a literal, or a reference to the variable of a name. -/
inductive Segment
  | literal (t : Text)
  | reference (name : Text)

/-- How a segment is written. -/
def Segment.text : Segment → Text
  | literal t => t
  | reference name => Environment.reference name

def Segment.literal? : Segment → Option Text
  | literal t => some t
  | reference _ => none

/-- What every reference begins with. -/
def opening : Text := "$\x7b"

/-- Segments without lone surrogates that keep apart: what stands in a reference is a name, and literals side by side do
not hold the beginning of a reference. -/
structure IsCut (segments : List Segment) : Prop where
  isScalar : ∀ s ∈ segments, s.text.isScalar
  isName : ∀ name, .reference name ∈ segments → IsName name
  unopened : ∀ literals : List Text, literals.map .literal <:+: segments → ¬ opening <:+: literals.flatten

/-- A directory without the slashes at its end. If there is nothing else in it, the root is left. -/
inductive IsTrimmed : Text → Text → Prop
  | root (n : Nat) : IsTrimmed (List.replicate n (CodePoint.ofChar '/')) "/"
  | directory {t : Text} (n : Nat) (nonempty : t ≠ []) (last : t.getLast? ≠ some (CodePoint.ofChar '/')) :
      IsTrimmed (t ++ List.replicate n (CodePoint.ofChar '/')) t

/-- What stands for a segment when it is expanded. A literal stays as it is, and a reference to a variable that is set is
replaced by its value. Otherwise one to the home directory is replaced by that, and any other stays as it is too. -/
inductive Expands (e : Environment) : Segment → Text → Prop
  | literal (t : Text) : Expands e (.literal t) t
  | known {name v : Text} (h : e.get? name = some v) : Expands e (.reference name) v
  | home {t : Text} (h : e.get? "HOME" = none) (trimmed : IsTrimmed e.home t) : Expands e (.reference "HOME") t
  | unknown {name : Text} (h : e.get? name = none) (hn : name ≠ "HOME") :
      Expands e (.reference name) (Environment.reference name)

variable {e : Environment} {t rest : Text} {segments : List Segment}

/-- All that is cut off a text at its end is slashes. -/
theorem exists_eq_append_slashes (t : Text) :
    ∃ n, t = (t.reverse.dropWhile (· = CodePoint.ofChar '/')).reverse ++ List.replicate n (CodePoint.ofChar '/') := by
  have hslashes : ∀ c ∈ (t.reverse.takeWhile (· = CodePoint.ofChar '/')).reverse, c = CodePoint.ofChar '/' := by
    intro c hc
    simpa using List.mem_takeWhile_imp (List.mem_reverse.1 hc)
  refine ⟨(t.reverse.takeWhile (· = CodePoint.ofChar '/')).reverse.length, ?_⟩
  calc t = (t.reverse.takeWhile (· = CodePoint.ofChar '/') ++ t.reverse.dropWhile (· = CodePoint.ofChar '/')).reverse := by
        rw [List.takeWhile_append_dropWhile, List.reverse_reverse]
    _ = (t.reverse.dropWhile (· = CodePoint.ofChar '/')).reverse ++
          (t.reverse.takeWhile (· = CodePoint.ofChar '/')).reverse := List.reverse_append
    _ = _ := by rw [← List.eq_replicate_of_mem hslashes]

/-- The home directory is given without the slashes at its end. -/
theorem isTrimmed_homeDirectory (e : Environment) : IsTrimmed e.home e.homeDirectory := by
  obtain ⟨n, hn⟩ := exists_eq_append_slashes e.home
  have hlast := List.head?_dropWhile_not (· = CodePoint.ofChar '/') e.home.reverse
  rw [← List.getLast?_reverse] at hlast
  unfold homeDirectory
  generalize (e.home.reverse.dropWhile (· = CodePoint.ofChar '/')).reverse = front at hn hlast ⊢
  rw [hn]
  cases front with
  | nil => exact .root n
  | cons c front =>
    apply IsTrimmed.directory n (List.cons_ne_nil c front)
    intro hslash
    rw [hslash] at hlast
    simp at hlast

theorem expands_resolve (e : Environment) (name : Text) : Expands e (.reference name) (e.resolve name) := by
  rw [resolve, value?]
  cases h : e.get? name with
  | some v => exact .known h
  | none =>
    by_cases hn : name = "HOME"
    · subst hn
      exact .home h (isTrimmed_homeDirectory e)
    · simpa only [hn, if_false] using .unknown h hn

theorem opening_prefix_reference (name : Text) : opening <+: reference name := ⟨name ++ "\x7d", rfl⟩

/-- Text without the beginning of a reference stays as it is, unless what follows makes up one with its last character. -/
theorem expand_append (ht : ¬ opening <:+: t) (hrest : rest.head? ≠ some (CodePoint.ofChar '{')) :
    e.expand (t ++ rest) = (e.expand rest).map (t ++ ·) := by
  induction t with
  | nil => cases h : e.expand rest <;> simp [h, Except.map]
  | cons c t ih =>
    have hplain : ∀ name, IsName name → ¬ reference name <+: c :: (t ++ rest) := by
      intro name _ hp
      have hopen : opening <+: c :: (t ++ rest) := (opening_prefix_reference name).trans hp
      obtain ⟨rfl, hbrace⟩ := List.cons_prefix_cons.1 hopen
      cases t with
      | nil =>
        obtain ⟨u, rfl⟩ := hbrace
        exact hrest rfl
      | cons d t =>
        obtain ⟨rfl, -⟩ := List.cons_prefix_cons.1 hbrace
        exact ht ⟨[], t, rfl⟩
    have htail : ¬ opening <:+: t := fun h => ht (List.infix_cons h)
    rw [List.cons_append, expand_plain hplain, ih htail]
    cases e.expand rest <;> simp [Except.map]

namespace IsCut

theorem of_append (front : List Segment) (h : IsCut (front ++ segments)) : IsCut segments where
  isScalar s hs := h.isScalar s (List.mem_append_right _ hs)
  isName name hname := h.isName name (List.mem_append_right _ hname)
  unopened literals hl := h.unopened literals (hl.trans (List.suffix_append _ _).isInfix)

theorem isNative {name : Text} (h : IsCut (.reference name :: segments)) : name.isNative := by
  have hs := h.isScalar (.reference name) (List.mem_cons_self ..)
  apply Text.isNative_of_isScalar
  simp only [Segment.text, reference, Text.isScalar, List.all_append, Bool.and_eq_true] at hs ⊢
  exact hs.1.2

/-- Literals, and the segments after them, are expanded one after the other. -/
theorem expand_eq (e : Environment) (literals : List Text) (h : IsCut (literals.map .literal ++ segments)) :
    ∃ us, List.Forall₂ (Expands e) segments us ∧
      e.expand (literals.flatten ++ segments.flatMap Segment.text) = .ok (literals.flatten ++ us.flatten) := by
  -- The literals are those read since the last reference: only all of them together are known to hold no beginning of one.
  induction segments generalizing literals with
  | nil =>
    have hunopened := h.unopened literals ⟨[], [], by simp⟩
    refine ⟨[], .nil, ?_⟩
    rw [List.flatMap_nil, expand_append hunopened (by simp)]
    rfl
  | cons s segments ih =>
    cases s with
    | literal t =>
      obtain ⟨us, hus, he⟩ := ih (literals ++ [t]) (by simpa using h)
      exact ⟨t :: us, .cons (.literal t) hus, by simpa [Segment.text] using he⟩
    | reference name =>
      have hunopened := h.unopened literals ⟨[], _, rfl⟩
      have hname := h.isName name (List.mem_append_right _ (List.mem_cons_self ..))
      have hrest : IsCut (.reference name :: segments) := h.of_append _
      have hnative := Text.nonNative?_eq_none.2 hrest.isNative
      obtain ⟨us, hus, he⟩ := ih [] (hrest.of_append [.reference name])
      refine ⟨e.resolve name :: us, .cons (expands_resolve e name) hus, ?_⟩
      rw [List.flatMap_cons, Segment.text, expand_append hunopened (by simp [reference_append, CodePoint.ofChar]),
        expand_reference hname, hnative]
      simp only [List.flatten_nil, List.nil_append] at he
      simp [he, Except.map]

end IsCut

/-- A text that is put together from segments is expanded to what stands for each of them, in their order. -/
theorem expand_segments (e : Environment) (h : IsCut segments) :
    ∃ us, List.Forall₂ (Expands e) segments us ∧ e.expand (segments.flatMap Segment.text) = .ok us.flatten := by
  simpa using IsCut.expand_eq e [] h

/-- Literals side by side are among all the literals, whatever stands between these. -/
theorem flatten_infix_literals {literals : List Text} (h : literals.map .literal <:+: segments) :
    literals.flatten <:+: (segments.filterMap Segment.literal?).flatten := by
  obtain ⟨front, back, rfl⟩ := h
  refine ⟨(front.filterMap Segment.literal?).flatten, (back.filterMap Segment.literal?).flatten, ?_⟩
  simp [Function.comp_def, Segment.literal?]

/-- An environment with a variable whose value looks like a reference. -/
def nestedEnvironment : Environment := ⟨[("A", "$\x7bHOME\x7d\\1")], "/home/user//"⟩

/-- Segments of which a dollar stands before a reference and a brace behind one. -/
def crowdedSegments : List Segment :=
  [.reference "A", .literal "\x7b", .literal "\x7d$", .reference "HOME", .literal "\x7d", .reference "B"]

theorem isCut_crowdedSegments : IsCut crowdedSegments where
  isScalar := by decide
  isName name h := by
    simp only [crowdedSegments, List.mem_cons, Segment.reference.injEq, reduceCtorEq, List.not_mem_nil, false_or,
      or_false] at h
    rcases h with rfl | rfl | rfl <;> exact ⟨by decide, by decide⟩
  unopened literals h ho := absurd (ho.trans (flatten_infix_literals h)) (by decide)

theorem expand_crowdedSegments :
    IsCut crowdedSegments ∧ ∃ us, List.Forall₂ (Expands nestedEnvironment) crowdedSegments us ∧
      nestedEnvironment.expand (crowdedSegments.flatMap Segment.text) = .ok us.flatten ∧
      us.flatten = Text.ofString "$\x7bHOME\x7d\\1\x7b\x7d$/home/user\x7d$\x7bB\x7d" := by
  obtain ⟨us, hus, he⟩ := expand_segments nestedEnvironment isCut_crowdedSegments
  exact ⟨isCut_crowdedSegments, us, hus, he, Except.ok.inj (he.symm.trans (by decide))⟩

end LspEndpoint.Environment
