import LspEndpoint.Text.Pieces

/-!
Internet addresses as they are written between the brackets of an authority.
-/
namespace LspEndpoint.Uri

/-- A number up to 255 in plain decimal digits. -/
def isOctet (t : Text) : Bool :=
  t ≠ [] && t.all CodePoint.isDigit && t.length ≤ 3 &&
  (t.length == 1 || t.head? != some (CodePoint.ofChar '0')) &&
  t.foldl (fun n c => n * 10 + c.digitValue) 0 ≤ 255

def isIPv4 (t : Text) : Bool :=
  let octets := t.pieces '.'
  octets.length == 4 && octets.all isOctet

def isHextet (t : Text) : Bool :=
  t ≠ [] && t.length ≤ 4 && t.all fun c => c.hexValue?.isSome

/-- The parts between colons, a dotted suffix counting as two; none if that suffix is no address. -/
def hextetParts? (t : Text) : Option (List Text) :=
  let parts := t.pieces ':'
  let last := parts.getLastD []
  if last.contains (CodePoint.ofChar '.') then
    if isIPv4 last then some (parts.dropLast ++ [Text.ofString "0", Text.ofString "0"]) else none
  else some parts

/-- Whether the parts make up eight hextets. One part inside may be empty and then stands for all the
zeros that are missing; a part at either end may be empty only beside that one. -/
def fillsEight (parts : List Text) : Bool :=
  let inner := parts.tail.dropLast
  let leading := parts.headD [] == []
  let trailing := parts.getLastD [] == []
  let gaps := inner.count []
  let gap := (inner.takeWhile (· ≠ [])).length
  let written := (parts.filter (· ≠ [])).length
  parts.all (fun p => p == [] || isHextet p) &&
  if gaps == 0 then parts.length == 8 && !leading && !trailing
  else gaps == 1 && (!leading || gap == 0) && (!trailing || gap + 1 == inner.length) && written ≤ 7

/-- Whether the text is an address of the longer kind, a zone after a percent sign allowed. -/
def isIPv6 (t : Text) : Bool :=
  let zoned := match t.after? '%' with
    | none => true
    | some zone => zone ≠ [] && !zone.contains (CodePoint.ofChar '%')
  let address := t.before '%'
  zoned && address ≠ [] &&
  match hextetParts? address with
  | none => false
  | some parts => 3 ≤ (address.pieces ':').length && parts.length ≤ 9 && fillsEight parts

/-- A `v`, hexadecimal digits, a point, and at least one character. -/
def isFutureAddress (t : Text) : Bool :=
  match t with
  | [] => false
  | _ :: rest =>
    let version := Text.before '.' rest
    version ≠ [] && version.all (fun c => c.hexValue?.isSome) &&
    match Text.after? '.' rest with
    | some (_ :: _) => true
    | _ => false

example : isIPv6 "::1" = true ∧ isIPv6 "::ffff:1.2.3.4%eth0" = true ∧ isIPv6 "1::2::3" = false := by
  decide +kernel

end LspEndpoint.Uri
