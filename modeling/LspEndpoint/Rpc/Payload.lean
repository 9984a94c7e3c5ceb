import LspEndpoint.Json.Reader
import LspEndpoint.Rpc.Response

/-!
Payloads as the transport delivers them. A payload beyond the size limit is refused unread; the limit
counts characters.
-/
namespace LspEndpoint.Rpc

/-- The largest payload that is accepted unless configured otherwise. -/
def defaultMaxSize : Int := 1048576

inductive Rejection
  | tooLarge (size : Nat) (limit : Int)
  | unshownLimit
  | unreadable (e : Json.Error)
deriving DecidableEq

namespace Rejection

/-- An integer with too many digits is no syntax error, and so no parse error, in a payload or as the
limit. -/
def isParseError : Rejection → Bool
  | .unreadable (.tooManyDigits _) | .unshownLimit => false
  | _ => true

def message : Rejection → Text
  | .tooLarge size limit =>
    "Message too large: " ++ Text.ofNat size ++ " bytes exceeds " ++ Text.ofInt limit ++ " limit"
  | .unshownLimit => Integer.unshownMessage
  | .unreadable (.tooManyDigits count) => (Json.Error.tooManyDigits count).message
  | .unreadable e => "Parse error: " ++ e.message

end Rejection

def readPayload (limit : Int) (payload : Text) : Except Rejection Json :=
  if limit < payload.length then
    .error (if Integer.isShown limit then .tooLarge payload.length limit else .unshownLimit)
  else
    match Json.read payload with
    | .ok v => .ok v
    | .error e => .error (.unreadable e)

/-- The answer to a payload that is refused. -/
def Rejection.response (r : Rejection) : Response := .ofError .null parseError r.message

end LspEndpoint.Rpc
