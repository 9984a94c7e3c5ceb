import LspEndpoint.Document.Store
import LspEndpoint.File.Refusal
import LspEndpoint.Number.Binary64
import LspEndpoint.Number.Integer
import LspEndpoint.Params.Error
import LspEndpoint.Uri.Split

/-!
What can go wrong inside a handler beyond a refusal. A fault has a name, the values that tell what
happened, and a message; the log shows the first two, a client none of them. Some faults cannot be shown: to try
it is a fault of its own, which is raised in their place.
-/
namespace LspEndpoint

/-- What is raised where nothing catches it: its kind and its message. -/
structure Raised where
  kind : Text
  message : Text
deriving DecidableEq

namespace Raised

/-- An integer is too long to be shown. -/
def tooManyDigits : Raised := ⟨"ValueError", Integer.unshownMessage⟩

/-- A value is nested too deep to be walked over. -/
def tooDeep : Raised := ⟨"RecursionError", "maximum recursion depth exceeded"⟩

end Raised

inductive Fault
  | backend (text : Text)
  | system (text : Text)
  | refused (r : File.Refusal) (name : Option Text)
  | noArguments
  | timedOut (argv : List Text) (seconds : Text)
  | unwaitable (seconds : Binary64)
  | nulByte
  | params (e : Params.Error)
  | uri (e : Uri.Error)
  | notOpen (uri : Text)
  | unencodable (e : Unencodable)
  | other (name message shown : Text)
  | unshown (name : Text) (cause : Raised)
deriving DecidableEq

namespace Fault

def name : Fault → Text
  | backend _ => "RuntimeError"
  | system _ => "OSError"
  | refused r _ => r.kind
  | noArguments => "IndexError"
  | timedOut _ _ => "TimeoutExpired"
  | unwaitable .nan | nulByte | uri _ => "ValueError"
  | unwaitable _ => "OverflowError"
  | params _ => "ParamShapeError"
  | notOpen _ => "KeyError"
  | unencodable _ => "UnicodeEncodeError"
  | other name _ _ | unshown name _ => name

/-- The longest time that there is, in seconds. -/
def longestTime : Binary64 := Binary64.ofRatio false 9223372036854 1000

/-- The message of a fault; of one that cannot be shown, what is raised in its place. -/
def message : Fault → Text
  | backend t | system t => t
  | refused r none => r.title
  | refused r (some name) => r.message name
  | noArguments => "list index out of range"
  | timedOut argv seconds =>
    "Command '" ++ Text.quotedList argv ++ "' timed out after " ++ seconds ++ " seconds"
  | unwaitable .nan => "cannot convert float NaN to integer"
  | unwaitable limit =>
    match limit.mul (Binary64.ofInt 1000) with
    | .infinite _ => "cannot convert float infinity to integer"
    | _ =>
      if (limit.sub longestTime).atMostZero then "timeout is too large"
      else "timestamp too large to convert to C _PyTime_t"
  | nulByte => "embedded null byte"
  | params e => e.message
  | uri e => e.message
  | notOpen missing => missing.quoted
  | unencodable e => e.message
  | other _ message _ => message
  | unshown _ cause => cause.message

/-- The values that tell what happened. -/
def details : Fault → List Text
  | refused r _ => [Text.ofNat r.code, r.reason.quoted]
  | timedOut argv seconds => [Text.quotedList argv, seconds]
  | notOpen missing => [missing.quoted]
  | unencodable e =>
    [Text.quoted (Text.ofString e.encoding), e.text.quoted, Text.ofNat e.start,
      Text.ofNat (e.start + e.length), Text.quoted "surrogates not allowed"]
  | f => [f.message.quoted]

/-- The fault as the log shows it, or what is raised in its place. -/
def display : Fault → Except Raised Text
  | unshown _ cause => .error cause
  | other _ _ shown => .ok shown
  | f => .ok (f.name ++ "(" ++ Text.joined ", " f.details ++ ")")

/-- What is raised in place of the fault where it is shown, if it cannot be. -/
def raised? (f : Fault) : Option Raised :=
  match f.display with
  | .ok _ => none
  | .error r => some r

def isShown (f : Fault) : Bool := f.raised?.isNone

/-- How the account of a fault begins and ends that the log gives of a request. -/
def account (f : Fault) : Text := "Traceback (most recent call last):\n" ++ f.name ++ ": " ++ f.message

example : (display (.notOpen "nope")).toOption = some (Text.ofString "KeyError('nope')") := by decide +kernel

end Fault

/-- Why a change failed, as a fault of its handler. -/
def ChangeError.fault : ChangeError → Fault
  | .notOpen uri => .notOpen uri
  | .unencodable e => .unencodable e

theorem ChangeError.message_fault (e : ChangeError) : e.fault.message = e.message := by
  cases e <;> rfl

end LspEndpoint
