import LspEndpoint.Text.Quoted

/-!
Why an operation on files is refused. Each reason has a number and a text of its own; those that the files here
give are named, and a system has others.
-/
namespace LspEndpoint.File

inductive Refusal
  | missing
  | noDevice
  | tooMuch
  | badDescriptor
  | forbidden
  | present
  | notDirectory
  | isDirectory
  | noSpace
  | nameTooLong
  | notEmpty
  | tooManyLinks
  | other (kind : String) (code : UInt32) (reason : Text)
deriving DecidableEq

namespace Refusal

def code : Refusal → Nat
  | missing => 2
  | noDevice => 6
  | tooMuch => 7
  | badDescriptor => 9
  | forbidden => 13
  | present => 17
  | notDirectory => 20
  | isDirectory => 21
  | noSpace => 28
  | nameTooLong => 36
  | notEmpty => 39
  | tooManyLinks => 40
  | other _ code _ => code.toNat

def reason : Refusal → Text
  | missing => "No such file or directory"
  | noDevice => "No such device or address"
  | tooMuch => "Argument list too long"
  | badDescriptor => "Bad file descriptor"
  | forbidden => "Permission denied"
  | present => "File exists"
  | notDirectory => "Not a directory"
  | isDirectory => "Is a directory"
  | noSpace => "No space left on device"
  | nameTooLong => "File name too long"
  | notEmpty => "Directory not empty"
  | tooManyLinks => "Too many levels of symbolic links"
  | other _ _ reason => reason

/-- The name of the kind of fault that a refusal is. -/
def kind : Refusal → String
  | missing => "FileNotFoundError"
  | forbidden => "PermissionError"
  | present => "FileExistsError"
  | notDirectory => "NotADirectoryError"
  | isDirectory => "IsADirectoryError"
  | other kind _ _ => kind
  | _ => "OSError"

/-- Whether nothing is found there, which is no fault when one looks whether something is. -/
def isAbsence : Refusal → Bool
  | missing | notDirectory | tooManyLinks => true
  | _ => false

/-- The refusal as the log shows it. -/
def display (r : Refusal) : Text :=
  Text.ofString r.kind ++ "(" ++ Text.ofNat r.code ++ ", " ++ r.reason.quoted ++ ")"

def title (r : Refusal) : Text := "[Errno " ++ Text.ofNat r.code ++ "] " ++ r.reason

/-- The message about a path. -/
def message (r : Refusal) (path : Text) : Text := r.title ++ ": " ++ path.quoted

example : message missing "x" = Text.ofString "[Errno 2] No such file or directory: 'x'" := by
  decide +kernel

end Refusal

end LspEndpoint.File
