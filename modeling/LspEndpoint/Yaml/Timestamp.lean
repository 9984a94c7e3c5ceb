import LspEndpoint.Time
import LspEndpoint.Yaml.Cursor

/-!
Dates and moments in YAML. A date stands alone, or a time of day follows it, with or without a fraction
and an offset from universal time.
-/
namespace LspEndpoint.Yaml

/-- The offset is in minutes. -/
structure TimeOfDay where
  hour : Nat
  minute : Nat
  second : Nat
  microsecond : Nat
  offset : Option Int

structure Timestamp where
  date : Date
  time : Option TimeOfDay

namespace Timestamp

/-- A number of at least `least` and at most `most` digits, and what follows it. -/
def digits? (least most : Nat) (t : Text) : Option (Nat × Text) :=
  let run := (t.take most).takeWhile CodePoint.isDigit
  if run.length < least then none
  else some (run.foldl (fun n c => n * 10 + c.digitValue) 0, t.drop run.length)

/-- Such a number behind a mark. -/
def part? (sign : CodePoint) (least most : Nat) : Text → Option (Nat × Text)
  | [] => none
  | c :: t => if c = sign then digits? least most t else none

/-- The microseconds in the digits behind a point. -/
def fraction (t : Text) : Nat × Text :=
  match t with
  | [] => (0, [])
  | c :: rest =>
    if c = '.' then
      let run := rest.takeWhile CodePoint.isDigit
      ((run.take 6).foldl (fun n c => n * 10 + c.digitValue) 0 * Nat.pow 10 (6 - run.length),
        rest.drop run.length)
    else (0, t)

/-- An offset that ends the text: none, a `Z`, or hours and perhaps minutes behind a sign. -/
def offset? (t : Text) : Option (Option Int) :=
  match t with
  | [] => some none
  | _ =>
    match t.dropWhile isSpaceOrTab with
    | [] => none
    | c :: rest =>
      if c = 'Z' then if rest = [] then some (some 0) else none
      else if c = '+' || c = '-' then do
        let (hours, rest) ← digits? 1 2 rest
        let (minutes, rest) ← if rest = [] then some (0, []) else part? ':' 2 2 rest
        let n : Int := hours * 60 + minutes
        if rest = [] then some (some (if c = '-' then -n else n)) else none
      else none

/-- What separates a date from a time. -/
def separator? : Text → Option Text
  | [] => none
  | c :: t =>
    if c = 'T' || c = 't' then some t
    else if isSpaceOrTab c then some (t.dropWhile isSpaceOrTab)
    else none

def time? (t : Text) : Option TimeOfDay := do
  let (hour, t) ← digits? 1 2 (← separator? t)
  let (minute, t) ← part? ':' 2 2 t
  let (second, t) ← part? ':' 2 2 t
  let (microsecond, t) := fraction t
  return ⟨hour, minute, second, microsecond, ← offset? t⟩

def read? (t : Text) : Option Timestamp := do
  let (year, t) ← digits? 4 4 t
  let (month, t) ← part? '-' 1 2 t
  let (day, t) ← part? '-' 1 2 t
  let date : Date := ⟨year, month, day⟩
  if t = [] then return ⟨date, none⟩ else return ⟨date, some (← time? t)⟩

/-- A plain scalar is a date only if month and day have two digits each. -/
def isImplicit (t : Text) : Bool :=
  match read? t with
  | some s => s.time.isSome || t.length == 10
  | none => false

def checkDate (d : Date) : Parsed Date :=
  if d.year = 0 then .error (.year d.year)
  else if d.month = 0 ∨ 12 < d.month then .error .month
  else if d.day = 0 ∨ Date.daysInMonth d.year d.month < d.day then .error .day
  else .ok d

def checkOffset : Option Int → Parsed (Option Int)
  | none => .ok none
  | some n =>
    if n.natAbs < 24 * 60 then .ok (some n) else .error (.offset (Moment.spanConstructed n))

def moment (d : Date) (t : TimeOfDay) : Parsed Moment := do
  let offset ← checkOffset t.offset
  let date ← checkDate d
  if 23 < t.hour then .error .hour
  else if 59 < t.minute then .error .minute
  else if 59 < t.second then .error .second
  else return ⟨date, t.hour, t.minute, t.second, t.microsecond, offset⟩

end Timestamp

end LspEndpoint.Yaml
