import LspEndpoint.Text.CodePoint

/-!
Dates and moments. A moment may carry its offset from universal time. Each has a plain written form
and a constructed one that lists its fields; a moment without offset can also be written as a stamp
in universal time. No form shows a fraction of a second that is zero.
-/
namespace LspEndpoint

structure Date where
  year : Nat
  month : Nat
  day : Nat
deriving DecidableEq

/-- The offset is in minutes. -/
structure Moment where
  date : Date
  hour : Nat
  minute : Nat
  second : Nat
  microsecond : Nat
  offset : Option Int
deriving DecidableEq

namespace Date

def text (d : Date) : Text :=
  Text.padded 4 d.year ++ "-" ++ Text.padded 2 d.month ++ "-" ++ Text.padded 2 d.day

def fields (d : Date) : List Nat := [d.year, d.month, d.day]

def isLeap (year : Nat) : Bool := year % 4 == 0 && (year % 100 != 0 || year % 400 == 0)

def daysInMonth (year month : Nat) : Nat :=
  if month = 2 then if isLeap year then 29 else 28
  else if month = 4 ∨ month = 6 ∨ month = 9 ∨ month = 11 then 30
  else 31

/-- The days from the first one of the first year to this one. -/
def dayNumber (d : Date) : Nat :=
  let years := d.year - 1
  let before := (List.range (d.month - 1)).foldl (fun n m => n + daysInMonth d.year (m + 1)) 0
  years * 365 + years / 4 - years / 100 + years / 400 + before + (d.day - 1)

end Date

def numberList (ns : List Nat) : Text := Text.joined ", " (ns.map Text.ofNat)

def Date.constructed (d : Date) : Text := "datetime.date(" ++ numberList d.fields ++ ")"

namespace Moment

def fraction (microsecond : Nat) : Text :=
  if microsecond = 0 then [] else "." ++ Text.padded 6 microsecond

/-- The offset as hours and minutes behind a sign. -/
def offsetText (offset : Int) : Text :=
  let sign : Text := if offset < 0 then "-" else "+"
  sign ++ Text.padded 2 (offset.natAbs / 60) ++ ":" ++ Text.padded 2 (offset.natAbs % 60)

def timeText (m : Moment) : Text :=
  Text.padded 2 m.hour ++ ":" ++ Text.padded 2 m.minute ++ ":" ++ Text.padded 2 m.second ++
    fraction m.microsecond

def text (m : Moment) : Text :=
  m.date.text ++ " " ++ m.timeText ++ (m.offset.map offsetText).getD []

/-- The microseconds from the start of the calendar, in universal time for an offset of zero. -/
def microseconds (m : Moment) (offset : Int) : Int :=
  let minutes : Int := (m.date.dayNumber * 24 + m.hour) * 60 + m.minute - offset
  (minutes * 60 + m.second) * 1000000 + m.microsecond

/-- Whether two moments are one and the same. Those with offsets are compared in universal time, and
never equal to those without. -/
def isSame (m n : Moment) : Bool :=
  match m.offset, n.offset with
  | some p, some q => m.microseconds p == n.microseconds q
  | none, none => m == n
  | _, _ => false

/-- The form that a log is stamped with. -/
def stamp (m : Moment) : Text := m.date.text ++ "T" ++ m.timeText ++ "Z"

/-- A span of minutes other than zero, as whole days, rounded down, and the seconds beyond them. -/
def spanConstructed (minutes : Int) : Text :=
  let days := minutes.fdiv 1440
  let seconds := (minutes.fmod 1440).toNat * 60
  let part (name : Text) (n : Int) : List Text := if n = 0 then [] else [name ++ Text.ofInt n]
  let parts := part "days=" days ++ part "seconds=" seconds
  "datetime.timedelta(" ++ Text.joined ", " parts ++ ")"

def zoneConstructed (offset : Int) : Text :=
  if offset = 0 then "datetime.timezone.utc"
  else "datetime.timezone(" ++ spanConstructed offset ++ ")"

/-- The fields of the time, without a zero fraction and then without zero seconds. -/
def timeFields (m : Moment) : List Nat :=
  if m.microsecond ≠ 0 then [m.hour, m.minute, m.second, m.microsecond]
  else if m.second ≠ 0 then [m.hour, m.minute, m.second]
  else [m.hour, m.minute]

def constructed (m : Moment) : Text :=
  "datetime.datetime(" ++ numberList (m.date.fields ++ m.timeFields) ++
    (m.offset.map fun o => ", tzinfo=" ++ zoneConstructed o).getD [] ++ ")"

example : stamp ⟨⟨999, 12, 31⟩, 23, 59, 59, 10, none⟩ =
    Text.ofString "0999-12-31T23:59:59.000010Z" := by
  decide +kernel

end Moment

end LspEndpoint
