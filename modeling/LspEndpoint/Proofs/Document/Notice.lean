import LspEndpoint.Document.Store
import LspEndpoint.Method.Basic
import LspEndpoint.Params.Decode

/-!
What clients tell of their documents. A notice is about one document: what it makes of that one follows from
that one alone, and the others stay as they are. So what becomes of a document over many notices follows from
those about it, whatever stands between them.
-/
namespace LspEndpoint

/-- That a document is open with some text, how it changes, or that it is closed. -/
inductive Notice
  | opened (p : DidOpenParams)
  | changed (p : DidChangeParams)
  | closed (p : DidCloseParams)
deriving DecidableEq

namespace Notice

/-- The document that a notice is about. -/
def uri : Notice → Text
  | opened p => p.uri
  | changed p => p.uri
  | closed p => p.uri

/-- The notice that a notification gives, if its params are sound. -/
def ofParams? (m : NotificationMethod) (params : Json) : Option Notice :=
  match m with
  | .exit => none
  | .didOpen => (Params.didOpen params).toOption.map opened
  | .didChange => (Params.didChange params).toOption.map changed
  | .didClose => (Params.didClose params).toOption.map closed

/-- What a notice makes of its document, which may not be open. -/
def revise : Notice → Option Document → Option Document
  | opened p, _ => some (Store.opened p)
  | changed p, d => d.map fun d => (Store.changed d p).1
  | closed _, _ => none

end Notice

namespace Entries

end Entries

namespace Store

/-- The store after a notice. -/
def heed (s : Store) : Notice → Store
  | .opened p => s.openDocument p
  | .changed p => (s.changeDocument p).1
  | .closed p => s.closeDocument p

theorem changeDocument_fst (s : Store) (p : DidChangeParams) :
    (s.changeDocument p).1 = match s.get? p.uri with
      | none => s
      | some d => s.insert p.uri (changed d p).1 := by
  unfold changeDocument
  cases s.get? p.uri <;> rfl

/-- A notice revises its own document and leaves all others. -/
theorem get?_heed (s : Store) (n : Notice) (u : Text) :
    (s.heed n).get? u = if u = n.uri then n.revise (s.get? u) else s.get? u := by
  cases n with
  | opened p => exact get?_insert s p.uri u (opened p)
  | closed p => exact get?_erase s p.uri u
  | changed p =>
    rw [heed, changeDocument_fst, Notice.uri]
    cases hd : s.get? p.uri with
    | none =>
      by_cases hu : u = p.uri
      · rw [if_pos hu, hu, hd, Notice.revise, Option.map_none]
      · rw [if_neg hu]
    | some d =>
      simp only [get?_insert]
      by_cases hu : u = p.uri
      · rw [if_pos hu, if_pos hu, hu, hd, Notice.revise, Option.map_some]
      · rw [if_neg hu, if_neg hu]

/-- What becomes of a document follows from the notices about it. -/
theorem get?_foldl_heed (s : Store) (ns : List Notice) (u : Text) :
    (ns.foldl heed s).get? u = (ns.filter fun n => n.uri = u).foldl (fun d n => n.revise d) (s.get? u) := by
  induction ns generalizing s with
  | nil => rfl
  | cons n rest ih =>
    rw [List.foldl_cons, ih, get?_heed]
    by_cases hu : n.uri = u
    · rw [if_pos hu.symm, List.filter_cons_of_pos (by simp [hu]), List.foldl_cons]
    · rw [if_neg (Ne.symm hu), List.filter_cons_of_neg (by simp [hu])]

/-- Notices about different documents can change places. -/
theorem get?_heed_comm (s : Store) {n m : Notice} (h : n.uri ≠ m.uri) (u : Text) :
    ((s.heed n).heed m).get? u = ((s.heed m).heed n).get? u := by
  simp only [get?_heed]
  by_cases hn : u = n.uri
  · simp [hn, h]
  · simp [hn]

/-- Every document stands under its own URI. -/
def Keyed (s : Store) : Prop := ∀ e ∈ s.entries, e.2.uri = e.1

theorem keyed_empty : empty.Keyed := fun _ h => absurd h List.not_mem_nil

theorem Keyed.insert {s : Store} (h : s.Keyed) {uri : Text} {d : Document} (hd : d.uri = uri) :
    (s.insert uri d).Keyed := by
  intro e he
  rcases Entries.mem_insert he with rfl | he
  · exact hd
  · exact h e he

theorem Keyed.uri_of_get? {s : Store} (h : s.Keyed) {uri : Text} {d : Document} (hd : s.get? uri = some d) :
    d.uri = uri := by
  obtain ⟨before, after, he, -⟩ := List.lookup_eq_some_iff.1 hd
  exact h (uri, d) (by simp [he])

theorem uri_changed (d : Document) (p : DidChangeParams) : (changed d p).1.uri = d.uri := by
  unfold changed
  split <;> rfl

theorem Keyed.heed {s : Store} (h : s.Keyed) (n : Notice) : (s.heed n).Keyed := by
  cases n with
  | opened p => exact h.insert rfl
  | closed p => exact fun e he => h e (List.mem_filter.1 he).1
  | changed p =>
    rw [Store.heed, changeDocument_fst]
    cases hd : s.get? p.uri with
    | none => exact h
    | some d => exact h.insert ((uri_changed d p).trans (h.uri_of_get? hd))

theorem Keyed.foldl_heed {s : Store} (h : s.Keyed) (ns : List Notice) : (ns.foldl Store.heed s).Keyed := by
  induction ns generalizing s with
  | nil => exact h
  | cons n rest ih => exact ih (h.heed n)

end Store

end LspEndpoint
