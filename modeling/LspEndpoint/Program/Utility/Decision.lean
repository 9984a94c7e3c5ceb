import LspEndpoint.Program.Basic
import LspEndpoint.Program.Condition
import LspEndpoint.Program.Quoting

/-!
Conditions as programs of their own.
-/
namespace LspEndpoint.Program.Utility

/-- What is wrong with a condition. -/
def conditionFault (args : List Text) (message : Text) : Text :=
  let lead : Text := "Illegal number: "
  if lead.isPrefixOf message then "invalid integer " ++ quotedValue (message.drop lead.length)
  else
    match args with
    | [a, _] => quotedValue a ++ ": unary operator expected"
    | [_, b, _] => quotedValue b ++ ": binary operator expected"
    | _ :: _ :: _ :: extra :: _ => "extra argument " ++ quotedValue extra
    | _ => message

/-- Decides a condition; in brackets the last argument closes it. -/
def decision (inBrackets : Bool) : Utility := fun c =>
  let isClosed := c.args.getLast? = some (Text.ofString "]")
  if inBrackets && !isClosed then c.complained "missing ']'" 2
  else
    let args := if inBrackets then c.args.dropLast else c.args
    match Condition.outcome c.files args with
    | .ok b => c.quiet (if b then 0 else 1)
    | .error message => c.complained (conditionFault args message) 2

end LspEndpoint.Program.Utility
