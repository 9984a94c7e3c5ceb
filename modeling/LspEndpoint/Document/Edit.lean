import LspEndpoint.Document.Offset

/-!
Content changes. Both ends of a range are looked up in the text before the change, and an end before
its start counts as the start.
-/
namespace LspEndpoint.Text

/-- The text with the code points from `start` to `stop` replaced. -/
def splice (t : Text) (start stop : Nat) (replacement : Text) : Text :=
  t.take start ++ replacement ++ t.drop stop

def applyChange (t : Text) (change : ContentChange) : Except Unencodable Text :=
  match change.range with
  | none => .ok change.text
  | some r =>
    match t.offsetAt r.start, t.offsetAt r.stop with
    | .ok start, .ok stop => .ok (t.splice start (max start stop) change.text)
    | .error e, _ => .error e
    | .ok _, .error e => .error e

/-- The changes in order, each applied to the text that the one before left. The first that fails
stops them; the text is then what the changes before it made. -/
def applyChanges (t : Text) : List ContentChange → Text × Option Unencodable
  | [] => (t, none)
  | change :: rest =>
    match t.applyChange change with
    | .ok t' => applyChanges t' rest
    | .error e => (t, some e)

theorem applyChanges_append (t : Text) (first second : List ContentChange) :
    t.applyChanges (first ++ second) =
      match t.applyChanges first with
      | (t', none) => t'.applyChanges second
      | failed => failed := by
  induction first generalizing t with
  | nil => rfl
  | cons change rest ih =>
    simp only [List.cons_append, applyChanges]
    cases t.applyChange change with
    | ok t' => exact ih t'
    | error e => rfl

end LspEndpoint.Text
