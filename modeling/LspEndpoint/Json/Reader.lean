import LspEndpoint.Json.Value
import LspEndpoint.Number.Integer
import LspEndpoint.Text.Lines

/-!
Reading documents. Beside the standard grammar, `NaN`, `Infinity` and `-Infinity` are values. A number
without fraction and exponent is an integer; an escaped surrogate pair is one code point, a surrogate
escaped alone stays. The first fault from the left is reported with its place.
-/
namespace LspEndpoint

namespace Json

inductive Problem
  | value
  | name
  | colon
  | comma
  | unterminated
  | control
  | escape
  | unicodeEscape
  | extra
  | byteOrderMark
deriving DecidableEq

def Problem.message : Problem → String
  | .value => "Expecting value"
  | .name => "Expecting property name enclosed in double quotes"
  | .colon => "Expecting ':' delimiter"
  | .comma => "Expecting ',' delimiter"
  | .unterminated => "Unterminated string starting at"
  | .control => "Invalid control character at"
  | .escape => "Invalid \\escape"
  | .unicodeEscape => "Invalid \\uXXXX escape"
  | .extra => "Extra data"
  | .byteOrderMark => "Unexpected UTF-8 BOM (decode using utf-8-sig)"

/-- What stopped a reading: a problem at the start of some rest of the text, or an integer with too
many digits. -/
inductive Stuck
  | wrong (problem : Problem) (rest : Text)
  | tooManyDigits (count : Nat)

abbrev Reading (α : Type) := Except Stuck (α × Text)

def isSpace (c : CodePoint) : Bool :=
  c.val == 0x20 || c.val == 0x0A || c.val == 0x0D || c.val == 0x09

def skipSpace (t : Text) : Text := t.dropWhile isSpace

/-- The code point of four hexadecimal digits that do not end the text. -/
def hexCode? : Text → Option CodePoint
  | a :: b :: c :: d :: _ :: _ =>
    match a.hexValue?, b.hexValue?, c.hexValue?, d.hexValue? with
    | some a, some b, some c, some d => some (.ofNat (((a * 16 + b) * 16 + c) * 16 + d))
    | _, _, _, _ => none
  | _ => none

/-- The trailing half that an escape right at the start of the text names. -/
def escapedTrailing? : Text → Option CodePoint
  | b :: u :: t => if b = '\\' ∧ u = 'u' then (hexCode? t).filter CodePoint.isTrailing else none
  | _ => none

/-- The code point of an escape, given what follows its `u`, and how much of that it takes. -/
def unicodeEscape? (t : Text) : Option (CodePoint × Nat) :=
  (hexCode? t).map fun c =>
    match if c.isLeading then escapedTrailing? (t.drop 4) else none with
    | some d => (.ofPair c d, 10)
    | none => (c, 4)

def shortEscape? (c : CodePoint) : Option CodePoint :=
  if c = '"' ∨ c = '\\' ∨ c = '/' then some c
  else if c = 'b' then some '\x08'
  else if c = 'f' then some '\x0c'
  else if c = 'n' then some '\n'
  else if c = 'r' then some '\r'
  else if c = 't' then some '\t'
  else none

/-- The characters of a string that starts at `start`, after `skip` characters that an escape has
taken; those already read are held backwards. -/
def readChars (start : Text) (read : Text) : (skip : Nat) → Text → Reading Text
  | _, [] => .error (.wrong .unterminated start)
  | skip + 1, _ :: t => readChars start read skip t
  | 0, c :: t =>
    if c = '"' then .ok (read.reverse, t)
    else if c = '\\' then
      match t with
      | [] => .error (.wrong .unterminated start)
      | e :: r =>
        if e = 'u' then
          match unicodeEscape? r with
          | some (d, taken) => readChars start (d :: read) (taken + 1) t
          | none => .error (.wrong .unicodeEscape t)
        else
          match shortEscape? e with
          | some d => readChars start (d :: read) 1 t
          | none => .error (.wrong .escape (c :: t))
    else if c.val ≤ 0x1F then .error (.wrong .control (c :: t))
    else readChars start (c :: read) 0 t

/-- The parts of a written number; an integer has no fraction and no exponent. -/
structure Numeral where
  negative : Bool
  whole : Text
  fraction : Text
  exponent : Option (Bool × Text)

def leadingDigits (t : Text) : Text := t.takeWhile CodePoint.isDigit

def wholePart? : Text → Option (Text × Text)
  | [] => none
  | c :: t =>
    if c = '0' then some ([c], t)
    else if c.isDigit then some (c :: leadingDigits t, t.dropWhile CodePoint.isDigit)
    else none

/-- The digits after a point, if there are any. -/
def fractionPart : Text → Text × Text
  | [] => ([], [])
  | c :: t =>
    if c = '.' ∧ leadingDigits t ≠ [] then (leadingDigits t, t.dropWhile CodePoint.isDigit)
    else ([], c :: t)

/-- The sign and digits of an exponent, if there is a digit. -/
def exponentPart : Text → Option (Bool × Text) × Text
  | [] => (none, [])
  | c :: t =>
    let signed := Integer.sign t
    if (c = 'e' ∨ c = 'E') ∧ leadingDigits signed.2 ≠ [] then
      (some (signed.1, leadingDigits signed.2), signed.2.dropWhile CodePoint.isDigit)
    else (none, c :: t)

def numeral? (t : Text) : Option (Numeral × Text) :=
  let (negative, body) := match t with
    | [] => (false, t)
    | c :: r => if c = '-' then (true, r) else (false, t)
  (wholePart? body).map fun (whole, afterWhole) =>
    let (fraction, afterFraction) := fractionPart afterWhole
    let (exponent, rest) := exponentPart afterFraction
    (⟨negative, whole, fraction, exponent⟩, rest)

def natOfDigits (digits : Text) : Nat := digits.foldl (fun n c => n * 10 + c.digitValue) 0

def Numeral.toJson (n : Numeral) : Except Stuck Json :=
  match n.fraction, n.exponent with
  | [], none =>
    if maxIntegerDigits < n.whole.length then .error (.tooManyDigits n.whole.length)
    else
      let value : Int := natOfDigits n.whole
      .ok (.int (if n.negative then -value else value))
  | fraction, exponent =>
    let power : Int := match exponent with
      | none => 0
      | some (negative, digits) =>
        if negative then -(natOfDigits digits : Int) else natOfDigits digits
    .ok (.float (.ofDecimal n.negative (natOfDigits (n.whole ++ fraction)) (power - fraction.length)))

/-- What follows the given word, if the text starts with it. -/
def afterWord? (word : String) (t : Text) : Option Text :=
  if t.startsWith word then some (t.drop word.length) else none

def words : List (String × Json) :=
  [("null", .null), ("true", .bool true), ("false", .bool false), ("NaN", .float .nan),
   ("Infinity", .float (.infinite false)), ("-Infinity", .float (.infinite true))]

def readWord? (t : Text) : Option (Json × Text) :=
  words.findSome? fun w => (afterWord? w.1 t).map (w.2, ·)

mutual

/-- One value at the start of the text. Each call takes a unit of fuel, and twice the length of the
text is always enough. -/
def readValue : (fuel : Nat) → Text → Reading Json
  | 0, t => .error (.wrong .value t)
  | _ + 1, [] => .error (.wrong .value [])
  | fuel + 1, c :: t =>
    if c = '"' then
      match readChars (c :: t) [] 0 t with
      | .error e => .error e
      | .ok (s, rest) => .ok (.text s, rest)
    else if c = '{' then
      match skipSpace t with
      | [] => .error (.wrong .name [])
      | d :: r => if d = '}' then .ok (.object [], r) else readMembers fuel [] (d :: r)
    else if c = '[' then
      match skipSpace t with
      | [] => .error (.wrong .value [])
      | d :: r => if d = ']' then .ok (.array [], r) else readItems fuel [] (d :: r)
    else
      match readWord? (c :: t) with
      | some found => .ok found
      | none =>
        match numeral? (c :: t) with
        | none => .error (.wrong .value (c :: t))
        | some (n, rest) =>
          match n.toJson with
          | .error e => .error e
          | .ok v => .ok (v, rest)

/-- Items up to the closing bracket, those before held backwards. -/
def readItems : (fuel : Nat) → List Json → Text → Reading Json
  | 0, _, t => .error (.wrong .value t)
  | fuel + 1, items, t =>
    match readValue fuel t with
    | .error e => .error e
    | .ok (v, rest) =>
      match skipSpace rest with
      | [] => .error (.wrong .comma [])
      | d :: r =>
        if d = ']' then .ok (.array (v :: items).reverse, r)
        else if d = ',' then readItems fuel (v :: items) (skipSpace r)
        else .error (.wrong .comma (d :: r))

/-- Members up to the closing brace, put in with those before. -/
def readMembers : (fuel : Nat) → Members → Text → Reading Json
  | 0, _, t => .error (.wrong .name t)
  | _ + 1, _, [] => .error (.wrong .name [])
  | fuel + 1, members, c :: t =>
    if c = '"' then
      match readChars (c :: t) [] 0 t with
      | .error e => .error e
      | .ok (key, afterKey) =>
        match skipSpace afterKey with
        | [] => .error (.wrong .colon [])
        | d :: afterColon =>
          if d = ':' then
            match readValue fuel (skipSpace afterColon) with
            | .error e => .error e
            | .ok (v, rest) =>
              match skipSpace rest with
              | [] => .error (.wrong .comma [])
              | e :: r =>
                if e = '}' then .ok (.object (Entries.insert key v members), r)
                else if e = ',' then readMembers fuel (Entries.insert key v members) (skipSpace r)
                else .error (.wrong .comma (e :: r))
          else .error (.wrong .colon (d :: afterColon))
    else .error (.wrong .name (c :: t))

end

/-- A place in a text: lines and columns count from one, the offset from zero. -/
structure Place where
  line : Nat
  column : Nat
  offset : Nat
deriving DecidableEq

/-- The place after the given text. -/
def placeAfter (t : Text) : Place :=
  t.foldl (fun p c => if c.isFeed then ⟨p.line + 1, 1, p.offset + 1⟩
    else ⟨p.line, p.column + 1, p.offset + 1⟩) ⟨1, 1, 0⟩

inductive Error
  | malformed (problem : Problem) (place : Place)
  | tooManyDigits (count : Nat)
deriving DecidableEq

def Error.message : Error → Text
  | .malformed problem place =>
    Text.ofString problem.message ++ ": line " ++ Text.ofNat place.line ++ " column " ++
      Text.ofNat place.column ++ " (char " ++ Text.ofNat place.offset ++ ")"
  | .tooManyDigits count => (IntegerError.tooManyDigits count).message

def Stuck.toError (whole : Text) : Stuck → Error
  | .wrong problem rest => .malformed problem (placeAfter (whole.take (whole.length - rest.length)))
  | .tooManyDigits count => .tooManyDigits count

/-- A whole text as one value with spaces around. -/
def readAll (t : Text) : Except Stuck Json :=
  match t with
  | c :: _ => if c.val = 0xFEFF then .error (.wrong .byteOrderMark t) else go
  | [] => go
where
  go : Except Stuck Json :=
    match readValue (2 * t.length + 2) (skipSpace t) with
    | .error e => .error e
    | .ok (v, rest) =>
      match skipSpace rest with
      | [] => .ok v
      | extra => .error (.wrong .extra extra)

def read (t : Text) : Except Error Json :=
  match readAll t with
  | .ok v => .ok v
  | .error e => .error (e.toError t)

end Json

end LspEndpoint
