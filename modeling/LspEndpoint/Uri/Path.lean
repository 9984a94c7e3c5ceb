import LspEndpoint.Params.Error
import LspEndpoint.Text.Utf8
import LspEndpoint.Uri.Split

/-!
From a file URI to a path. Text without a scheme, or with a drive letter in the place of one, is a
path already. Escaped bytes are read as UTF-8 together with the ASCII characters around them.
-/
namespace LspEndpoint

/-- A character that is no byte ends a sequence that has begun. -/
def Bytes.Decoding.push (d : Bytes.Decoding) (c : CodePoint) : Bytes.Decoding :=
  match d.pending with
  | none => ⟨c :: d.read, none⟩
  | some _ => ⟨c :: CodePoint.replacement :: d.read, none⟩

namespace Uri

/-- The byte that an escape at the start of the text stands for. -/
def escapedByte? : Text → Option UInt8
  | p :: a :: b :: _ =>
    if p = '%' then
      match a.hexValue?, b.hexValue? with
      | some high, some low => some (UInt8.ofNat (high * 16 + low))
      | _, _ => none
    else none
  | _ => none

/-- Reads on after `skip` characters that an escape has taken. -/
def percentDecodeFrom (d : Bytes.Decoding) : (skip : Nat) → Text → Text
  | _, [] => d.finish
  | skip + 1, _ :: t => percentDecodeFrom d skip t
  | 0, c :: t =>
    match escapedByte? (c :: t) with
    | some b => percentDecodeFrom (d.step b) 2 t
    | none =>
      if c.isAscii then percentDecodeFrom (d.step (UInt8.ofNat c.val)) 0 t
      else percentDecodeFrom (d.push c) 0 t

def percentDecode (t : Text) : Text := percentDecodeFrom ⟨[], none⟩ 0 t

/-- Why a URI names no path: it cannot be split, or its scheme is another one. -/
inductive PathError
  | malformed (e : Error)
  | rejected (e : Params.Error)
deriving DecidableEq

/-- The path of split parts; an authority other than `localhost` stands before it. -/
def Parts.toPath (p : Parts) : Text :=
  if p.authority = [] ∨ p.authority = "localhost" then percentDecode p.path
  else "//" ++ p.authority ++ percentDecode p.path

def toPath (uri : Text) : Except PathError Text :=
  match split uri with
  | .error e => .error (.malformed e)
  | .ok parts =>
    if parts.scheme.length ≤ 1 then .ok uri
    else if parts.scheme = "file" then .ok parts.toPath
    else .error (.rejected (.notFileUri uri))

end Uri

end LspEndpoint
