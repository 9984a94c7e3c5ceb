import LspEndpoint.Text.CodePoint

/-!
Cutting a text at one code point.
-/
namespace LspEndpoint.Text

/-- The pieces between separators; there is always one more of them than separators. -/
def pieces (separator : CodePoint) : Text → List Text
  | [] => [[]]
  | c :: t =>
    if c = separator then [] :: pieces separator t
    else match pieces separator t with
      | [] => [[c]]
      | p :: ps => (c :: p) :: ps

/-- What stands before the first separator. -/
def before (separator : CodePoint) (t : Text) : Text := t.takeWhile (· ≠ separator)

/-- What stands after the first separator, if there is one. -/
def after? (separator : CodePoint) (t : Text) : Option Text :=
  match t.dropWhile (· ≠ separator) with
  | [] => none
  | _ :: rest => some rest

/-- What stands after the last separator, the whole text if there is none. -/
def afterLast (separator : CodePoint) (t : Text) : Text :=
  (t.reverse.takeWhile (· ≠ separator)).reverse

/-- The text without one line feed at its end. -/
def withoutLineFeed (t : Text) : Text :=
  if t.getLast? = some (CodePoint.ofChar '\n') then t.dropLast else t

theorem length_pieces (separator : CodePoint) (t : Text) :
    (pieces separator t).length = t.count separator + 1 := by
  induction t with
  | nil => rfl
  | cons c t ih =>
    by_cases h : c = separator
    · simp [pieces, h, ih]
    · simp only [pieces, if_neg h]
      rw [List.count_cons_of_ne h, ← ih]
      cases hp : pieces separator t with
      | nil => simp [hp] at ih
      | cons p ps => simp

end LspEndpoint.Text
