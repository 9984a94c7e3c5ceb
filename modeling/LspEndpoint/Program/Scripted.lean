import LspEndpoint.Fault

/-!
Programs that are not run: each launch takes the next of a list of outcomes, and succeeds without
output when none is left.
-/
namespace LspEndpoint.Program

inductive Canned
  | output (text : Text)
  | systemError (text : Text)
  | timeout (seconds : Text)

def Canned.result (argv : List Text) : Canned → Except Fault Text
  | output t => .ok t
  | systemError t => .error (.system t)
  | timeout seconds => .error (.timedOut argv seconds)

def scripted (outcomes : List Canned) (argv : List Text) : Except Fault Text × List Canned :=
  match outcomes with
  | [] => (.ok [], [])
  | c :: rest => (c.result argv, rest)

end LspEndpoint.Program
