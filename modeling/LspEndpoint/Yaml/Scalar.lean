import LspEndpoint.Datum.Basic
import LspEndpoint.Number.Decimal
import LspEndpoint.Text.Base64
import LspEndpoint.Text.Lower
import LspEndpoint.Yaml.Tag
import LspEndpoint.Yaml.Timestamp

/-!
The values of scalars. A plain scalar gets the first tag that it looks like; an explicit tag reads its
text more generously than that look.
-/
namespace LspEndpoint.Yaml

/-- The tag of a line of text by its look. -/
def Tag.ofLine (t : Text) : Tag :=
  if looksLikeBool t then .bool
  else if looksLikeFloat t then .float
  else if looksLikeInt t then .int
  else if t = "<<" then .merge
  else if looksLikeNull t then .null
  else if Timestamp.isImplicit t then .timestamp
  else if t = "=" then .same
  else if isOneOfWords ["!", "&", "*"] t then .unknown
  else .text

/-- The tag of a scalar that has none of its own. A line end behind a line does not change its look. -/
def Tag.ofPlain (t : Text) : Tag :=
  if t = "\n" then .text else .ofLine t.withoutLineFeed

example : Tag.ofPlain "1_000" = .int := by decide +kernel

example : Tag.ofPlain "1e3" = .text := by decide +kernel

example : Tag.ofPlain "190:20:30.15" = .float := by decide +kernel

example : Tag.ofPlain "2024-1-2" = .text := by decide +kernel

/-- The text without the underscores that may stand between digits. -/
def ungapped (t : Text) : Text := t.filter (· ≠ CodePoint.ofChar '_')

def decimal (t : Text) : Parsed Int := (Integer.read t).mapError .integer

/-- The value of a digit, if it is one of that base. -/
def digitOf? (base : Nat) (c : CodePoint) : Option Nat :=
  (c.hexValue?.or c.decimalValue?).filter (· < base)

/-- What may stand in front of digits of a base. -/
def baseMark : Nat → Option CodePoint
  | 2 => some 'b'
  | 8 => some 'o'
  | 16 => some 'x'
  | _ => none

/-- The digits without the mark of their base. -/
def unmarked (base : Nat) : Text → Text
  | z :: m :: d :: t =>
    if z = '0' ∧ baseMark base = some m.toAsciiLower then d :: t else z :: m :: d :: t
  | t => t

/-- An integer of a base other than ten. -/
def based (base : Nat) (text : Text) : Parsed Int :=
  let t := text.dropWhile Integer.isMargin
  let (negative, t) := Integer.sign (t.reverse.dropWhile Integer.isMargin).reverse
  match (unmarked base t).mapM (digitOf? base) with
  | some (d :: ds) =>
    let n := (d :: ds).foldl (fun n d => n * base + d) 0
    .ok (if negative then -(n : Int) else n)
  | _ => .error (.digits base text)

def intMagnitude (t : Text) : Parsed Int :=
  if t = "0" then .ok 0
  else if t.startsWith "0b" then based 2 (t.drop 2)
  else if t.startsWith "0x" then based 16 (t.drop 2)
  else
    match t with
    | [] => .error .noText
    | c :: _ =>
      if c = '0' then based 8 t
      else if t.contains ':' then do
        let places ← (Text.pieces ':' t).mapM decimal
        return places.foldl (fun n d => n * 60 + d) 0
      else decimal t

def intValue (t : Text) : Parsed Int :=
  match ungapped t with
  | [] => .error .noText
  | t =>
    let (negative, t) := Integer.sign t
    (intMagnitude t).map fun n => if negative then -n else n

def float (t : Text) : Parsed Binary64 :=
  match Decimal.read? t with
  | some x => .ok x
  | none => .error (.float t)

/-- Places to base sixty, the last one first, of which the first counts `unit`. -/
def sumPlaces (unit : Nat) (sum : Binary64) : List Binary64 → Parsed Binary64
  | [] => .ok sum
  | x :: xs =>
    let weight := Binary64.ofInt unit
    if weight.isFinite then sumPlaces (unit * 60) (sum.add (x.mul weight)) xs
    else .error .tooManyPlaces

/-- Whether a text is the word for what is no number, in its own spelling. -/
def isNaNWord (t : Text) : Bool :=
  let t := (ungapped t).lower
  t ≠ [] && (Integer.sign t).2 = ".nan"

def floatMagnitude (t : Text) : Parsed Binary64 :=
  if t = ".inf" then .ok (.infinite false)
  else if t = ".nan" then .ok .nan
  else if t.contains ':' then do
    let places ← (Text.pieces ':' t).mapM float
    sumPlaces 1 .zero places.reverse
  else float t

def floatValue (t : Text) : Parsed Binary64 :=
  match (ungapped t).lower with
  | [] => .error .noText
  | t =>
    let (negative, t) := Integer.sign t
    (floatMagnitude t).map fun x => if negative then x.neg else x

def boolValue (t : Text) : Parsed Bool :=
  let t := t.lower
  if isOneOfWords ["yes", "true", "on"] t then .ok true
  else if isOneOfWords ["no", "false", "off"] t then .ok false
  else .error (.word t)

def binaryValue (t : Text) : Parsed Bytes :=
  if t.all CodePoint.isAscii then
    match Base64.read? t with
    | some b => .ok b
    | none => .error .malformed
  else .error .malformed

def timestampValue (t : Text) : Parsed Datum :=
  match Timestamp.read? t.withoutLineFeed with
  | some ⟨date, none⟩ => (Timestamp.checkDate date).map .date
  | some ⟨date, some time⟩ => (Timestamp.moment date time).map .moment
  | none => .error .noTimestamp

/-- The value of a scalar with a tag. Tags of collections and unknown ones have none. -/
def scalarValue (tag : Tag) (t : Text) : Parsed Datum :=
  match tag with
  | .null => .ok .null
  | .bool => (boolValue t).map .bool
  | .int => (intValue t).map .int
  | .float => (floatValue t).map .float
  | .binary => (binaryValue t).map .bytes
  | .timestamp => timestampValue t
  | .text => .ok (.text t)
  | _ => .error .malformed

end LspEndpoint.Yaml
