import LspEndpoint.Document.Store
import LspEndpoint.Json.Reader
import LspEndpoint.Params.Decode
import LspEndpoint.Proofs.Document.Index

/-!
What a list of changes leaves of a document. A change whose positions are found is applied, and the first
whose positions are hidden by a lone surrogate stops the list: the text is then what the changes before it
made. So a list of changes is applied as a whole exactly if every position is found in the text that it
is looked up in.
-/
namespace LspEndpoint

namespace Text

/-- The text after a change whose positions are found. -/
def edited (t : Text) (change : ContentChange) : Text :=
  match change.range with
  | none => change.text
  | some r => t.splice (t.index r.start) (max (t.index r.start) (t.index r.stop)) change.text

/-- No position of the change is hidden in the text. -/
def Finds (t : Text) (change : ContentChange) : Prop :=
  ∀ r ∈ change.range, ¬ t.Hides r.start ∧ ¬ t.Hides r.stop

/-- No position of the changes is hidden in the text that the changes before leave. -/
def FindsAll : Text → List ContentChange → Prop
  | _, [] => True
  | t, change :: rest => t.Finds change ∧ FindsAll (t.edited change) rest

theorem applyChange_of_finds {t : Text} {change : ContentChange} (h : t.Finds change) :
    t.applyChange change = .ok (t.edited change) := by
  obtain ⟨text, _ | r⟩ := change
  · rfl
  · obtain ⟨hstart, hstop⟩ := h r rfl
    simp only [applyChange, edited, offsetAt_of_not_hides hstart, offsetAt_of_not_hides hstop]

theorem applyChange_of_not_finds {t : Text} {change : ContentChange} (h : ¬ t.Finds change) :
    ∃ e, t.applyChange change = .error e := by
  obtain ⟨text, _ | r⟩ := change
  · exact absurd (fun r hr => by cases hr) h
  · by_cases hstart : t.Hides r.start
    · obtain ⟨e, he⟩ := offsetAt_of_hides hstart
      exact ⟨e, by simp only [applyChange, he]⟩
    · have hstop : t.Hides r.stop := Classical.not_not.1 fun hn =>
        h fun _ hr => Option.some.inj hr ▸ ⟨hstart, hn⟩
      obtain ⟨e, he⟩ := offsetAt_of_hides hstop
      exact ⟨e, by simp only [applyChange, offsetAt_of_not_hides hstart, he]⟩

theorem applyChanges_of_findsAll {t : Text} {changes : List ContentChange}
    (h : t.FindsAll changes) : t.applyChanges changes = (changes.foldl edited t, none) := by
  induction changes generalizing t with
  | nil => rfl
  | cons change rest ih =>
    rw [applyChanges, applyChange_of_finds h.1]
    exact ih h.2

/-- The first change with a hidden position stops the list, and what was done before stays done. -/
theorem applyChanges_of_not_findsAll {t : Text} {changes : List ContentChange}
    (h : ¬ t.FindsAll changes) :
    ∃ done change rest e, changes = done ++ change :: rest ∧ t.FindsAll done ∧
      ¬ (done.foldl edited t).Finds change ∧
      t.applyChanges changes = (done.foldl edited t, some e) := by
  induction changes generalizing t with
  | nil => exact absurd trivial h
  | cons change rest ih =>
    by_cases hc : t.Finds change
    · obtain ⟨done, failing, rest', e, rfl, hd, hn, he⟩ := ih fun hr => h ⟨hc, hr⟩
      refine ⟨change :: done, failing, rest', e, rfl, ⟨hc, hd⟩, hn, ?_⟩
      rw [applyChanges, applyChange_of_finds hc]
      exact he
    · obtain ⟨e, he⟩ := applyChange_of_not_finds hc
      exact ⟨[], change, rest, e, rfl, trivial, hc, by rw [applyChanges, he]; rfl⟩

theorem isScalar_splice {t s : Text} (ht : t.isScalar) (hs : s.isScalar) (start stop : Nat) :
    (t.splice start stop s).isScalar := by
  simp only [isScalar, List.all_eq_true] at *
  intro c hc
  rcases List.mem_append.1 hc with hc | hc
  · rcases List.mem_append.1 hc with hc | hc
    · exact ht c (List.mem_of_mem_take hc)
    · exact hs c hc
  · exact ht c (List.mem_of_mem_drop hc)

/-- Where neither the text nor a replacement holds a lone surrogate every position is found. -/
theorem findsAll_of_isScalar {t : Text} {changes : List ContentChange} (ht : t.isScalar)
    (h : ∀ change ∈ changes, change.text.isScalar) : t.FindsAll changes := by
  induction changes generalizing t with
  | nil => trivial
  | cons change rest ih =>
    have hc := h change (List.mem_cons_self ..)
    refine ⟨fun r _ => ⟨not_hides_of_isScalar ht _, not_hides_of_isScalar ht _⟩, ih ?_ ?_⟩
    · obtain ⟨text, _ | r⟩ := change
      · exact hc
      · exact isScalar_splice ht hc _ _
    · exact fun change hm => h change (List.mem_cons_of_mem _ hm)

end Text

namespace Store

/-- The document with all changes applied in order, and the version of the params if they have one. -/
def updated (d : Document) (p : DidChangeParams) : Document :=
  { d with text := p.changes.foldl Text.edited d.text, version := p.version.getD d.version }

/-- Either the document is not open and the store stays as it was, or all changes are applied. -/
def IsAtomic (s : Store) (p : DidChangeParams) : Prop :=
  (s.get? p.uri = none ∧ s.changeDocument p = (s, some (.notOpen p.uri))) ∨
    ∃ d, s.get? p.uri = some d ∧ s.changeDocument p = (s.insert p.uri (updated d p), none)

theorem changeDocument_of_findsAll {s : Store} {p : DidChangeParams} {d : Document}
    (hd : s.get? p.uri = some d) (h : d.text.FindsAll p.changes) :
    s.changeDocument p = (s.insert p.uri (updated d p), none) := by
  simp only [changeDocument, hd, changed, Text.applyChanges_of_findsAll h, updated, Option.map_none]

theorem changeDocument_of_not_findsAll {s : Store} {p : DidChangeParams} {d : Document}
    (hd : s.get? p.uri = some d) (h : ¬ d.text.FindsAll p.changes) :
    ∃ done change rest e, p.changes = done ++ change :: rest ∧ d.text.FindsAll done ∧
      ¬ (done.foldl Text.edited d.text).Finds change ∧
      s.changeDocument p =
        (s.insert p.uri { d with text := done.foldl Text.edited d.text }, some (.unencodable e)) := by
  obtain ⟨done, change, rest, e, hc, hf, hn, ha⟩ := Text.applyChanges_of_not_findsAll h
  refine ⟨done, change, rest, e, hc, hf, hn, ?_⟩
  simp only [changeDocument, hd, changed, ha, Option.map_some]

/-- A list of changes is all applied or not at all exactly if none of its positions is hidden, which is so
without lone surrogates; otherwise the changes before the first hidden position stay applied. -/
theorem changeDocument_isAtomic_iff (s : Store) (p : DidChangeParams) :
    (s.IsAtomic p ↔ ∀ d, s.get? p.uri = some d → d.text.FindsAll p.changes) ∧
      (∀ d, s.get? p.uri = some d → d.text.isScalar →
        (∀ change ∈ p.changes, change.text.isScalar) → d.text.FindsAll p.changes) ∧
      ∀ d, s.get? p.uri = some d → ¬ d.text.FindsAll p.changes →
        ∃ done change rest e, p.changes = done ++ change :: rest ∧ d.text.FindsAll done ∧
          ¬ (done.foldl Text.edited d.text).Finds change ∧
          s.changeDocument p =
            (s.insert p.uri { d with text := done.foldl Text.edited d.text }, some (.unencodable e)) := by
  refine ⟨⟨?_, ?_⟩, fun d _ => Text.findsAll_of_isScalar, fun d => changeDocument_of_not_findsAll⟩
  · intro hs d hd
    refine Classical.byContradiction fun hn => ?_
    obtain ⟨done, change, rest, e, -, -, -, he⟩ := changeDocument_of_not_findsAll hd hn
    rcases hs with ⟨hnone, -⟩ | ⟨d', -, hok⟩
    · rw [hd] at hnone
      cases hnone
    · rw [he] at hok
      cases congrArg Prod.snd hok
  · intro h
    cases hd : s.get? p.uri with
    | none => exact .inl ⟨hd, by simp only [changeDocument, hd]⟩
    | some d => exact .inr ⟨d, hd, changeDocument_of_findsAll hd (h d hd)⟩

/-- A change that puts a lone surrogate into a document, and one behind it. -/
def hiddenChange : DidChangeParams where
  uri := "u"
  version := some 2
  changes := [⟨[.ofChar 'a', .ofNat 0xD800], none⟩, ⟨"b", some ⟨⟨0, 2⟩, ⟨0, 2⟩⟩⟩]

def hiddenChangeText : Text :=
  "\x7b\"textDocument\": \x7b\"uri\": \"u\", \"version\": 2\x7d, \"contentChanges\": [" ++
    "\x7b\"text\": \"a\\ud800\"\x7d, \x7b\"text\": \"b\", \"range\": " ++
    "\x7b\"start\": \x7b\"line\": 0, \"character\": 2\x7d, " ++
    "\"end\": \x7b\"line\": 0, \"character\": 2\x7d\x7d\x7d]\x7d"

/-- A client can send that change; the first half of it is applied and the second is not. -/
theorem changeDocument_hiddenChange :
    (Json.read hiddenChangeText).toOption.bind (fun v => (Params.didChange v).toOption) =
        some hiddenChange ∧
      (empty.openDocument ⟨"u", [], 0, []⟩).changeDocument hiddenChange =
        (empty.insert "u" ⟨"u", [], 0, [.ofChar 'a', .ofNat 0xD800]⟩,
          some (.unencodable ⟨"utf-16-le", [.ofNat 0xD800], 0, 1⟩)) ∧
      ¬ (empty.openDocument ⟨"u", [], 0, []⟩).IsAtomic hiddenChange := by
  have h : (empty.openDocument ⟨"u", [], 0, []⟩).changeDocument hiddenChange =
      (empty.insert "u" ⟨"u", [], 0, [.ofChar 'a', .ofNat 0xD800]⟩,
        some (.unencodable ⟨"utf-16-le", [.ofNat 0xD800], 0, 1⟩)) := by decide +kernel
  refine ⟨by decide +kernel, h, ?_⟩
  rintro (⟨hnone, -⟩ | ⟨d, -, hok⟩)
  · exact absurd hnone (by decide +kernel)
  · rw [h] at hok
    cases congrArg Prod.snd hok

end Store

end LspEndpoint
