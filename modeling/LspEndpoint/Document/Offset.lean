import LspEndpoint.Params.Basic
import LspEndpoint.Text.Lines
import LspEndpoint.Text.Units
import LspEndpoint.Text.Utf8

/-!
Where a position stands in a text. A line past the end means the end of the text and a character past
the end of its line means the end of that line; a carriage return or line feed that ends a line lies
outside it. A lone surrogate before the position has no length in code units, so the search fails.
-/
namespace LspEndpoint.Text

/-- The first line as far as positions point into it. -/
def addressable (t : Text) : Text := t.firstLine.trimNewlines

/-- How many of the code points lie before the given number of code units; `passed` are counted
already. -/
def column : (passed units : Nat) → Text → Except Unencodable Nat
  | passed, _, [] => .ok passed
  | passed, 0, _ :: _ => .ok passed
  | passed, units + 1, c :: t =>
    if c.isSurrogate then .error ⟨"utf-16-le", [c], 0, 1⟩
    else column (passed + 1) (units + 1 - c.units) t

def offsetAt (t : Text) (p : Position) : Except Unencodable Nat :=
  let rest := t.dropLines p.line
  match column 0 p.character rest.addressable with
  | .ok n => .ok (t.length - rest.length + n)
  | .error e => .error e

theorem column_zero (passed : Nat) (t : Text) : column passed 0 t = .ok passed := by
  cases t <;> rfl

theorem column_add (passed units : Nat) (t : Text) :
    column passed units t = (column 0 units t).map (passed + ·) := by
  suffices h : ∀ n, column (passed + n) units t = (column n units t).map (passed + ·) by
    simpa using h 0
  intro n
  induction t generalizing n units with
  | nil => simp [column, Except.map]
  | cons c t ih =>
    cases units with
    | zero => simp [column, Except.map]
    | succ units =>
      simp only [column]
      split
      · rfl
      · exact ih _ (n + 1)

end LspEndpoint.Text
