import LspEndpoint.Json.Printer
import LspEndpoint.Number.Integer

/-!
Outgoing responses. Every response carries the id of its message and either a result or an error; the
data of an error is left out when it is null.
-/
namespace LspEndpoint

/-- Why a value has no written form: the kind of a value, or of a key, that a document cannot hold,
a value that contains itself, or an integer that is too long. -/
inductive Unwritable
  | value (kind : String)
  | key (kind : String)
  | cycle
  | tooManyDigits
deriving DecidableEq

def Unwritable.message : Unwritable → Text
  | .value kind => "Object of type " ++ Text.ofString kind ++ " is not JSON serializable"
  | .key kind => "keys must be str, int, float, bool or None, not " ++ Text.ofString kind
  | .cycle => "Circular reference detected"
  | .tooManyDigits => Integer.unshownMessage

namespace Rpc

def parseError : Int := -32700
def invalidRequest : Int := -32600
def methodNotFound : Int := -32601
def invalidParams : Int := -32602
def internalError : Int := -32603

structure Error where
  code : Int
  message : Text
  data : Json
deriving DecidableEq

/-- An error without data. -/
def Error.plain (code : Int) (message : Text) : Error := ⟨code, message, .null⟩

def Error.toJson (e : Error) : Json :=
  match e.data with
  | .null => .record [("code", .int e.code), ("message", .text e.message)]
  | data => .record [("code", .int e.code), ("message", .text e.message), ("data", data)]

/-- A result that cannot be written is still a result; it fails when the response is sent. -/
inductive Reply
  | result (value : Json)
  | unwritable (reason : Unwritable)
  | error (e : Error)
deriving DecidableEq

structure Response where
  id : Json
  reply : Reply
deriving DecidableEq

def Response.ofResult (id : Json) (value : Json) : Response := ⟨id, .result value⟩

def Response.ofError (id : Json) (code : Int) (message : Text) : Response :=
  ⟨id, .error (.plain code message)⟩

/-- The answer to a message that is no request. -/
def Response.invalid (id : Json) : Response :=
  .ofError id invalidRequest "The JSON sent is not a valid request object."

def Response.toJson (r : Response) : Except Unwritable Json :=
  let body (key : String) (value : Json) : Json :=
    .record [("jsonrpc", Json.string "2.0"), ("id", r.id), (key, value)]
  match r.reply with
  | .result v => .ok (body "result" v)
  | .unwritable reason => .error reason
  | .error e => .ok (body "error" e.toJson)

/-- The outcome as the trace names it: `success`, or the error's code if that can be shown. -/
def Response.status? (r : Response) : Option Text :=
  match r.reply with
  | .error e => if Integer.isShown e.code then some (Text.ofInt e.code) else none
  | _ => some "success"

end Rpc

end LspEndpoint
