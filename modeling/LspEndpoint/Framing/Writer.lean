import LspEndpoint.Rpc.Response
import LspEndpoint.Text.Utf8

/-!
Writing frames. The body is the plain written form in UTF-8 and the header gives its length in bytes.
-/
namespace LspEndpoint.Framing

inductive WriteError
  | unwritable (e : Unwritable)
  | unencodable (e : Unencodable)
deriving DecidableEq

def WriteError.message : WriteError → Text
  | .unwritable e => e.message
  | .unencodable e => e.message

/-- Bytes of ASCII text. -/
def asciiBytes (t : Text) : Bytes := t.map fun c => UInt8.ofNat c.val

def frameOf (body : Bytes) : Bytes :=
  asciiBytes ("Content-Length: " ++ Text.ofNat body.length ++ "\r\n\r\n") ++ body

def write (v : Json) : Except WriteError Bytes :=
  match (v.render false).utf8 with
  | .ok body => .ok (frameOf body)
  | .error e => .error (.unencodable e)

def writeResponse (r : Rpc.Response) : Except WriteError Bytes :=
  match r.toJson with
  | .ok v => write v
  | .error e => .error (.unwritable e)

end LspEndpoint.Framing
