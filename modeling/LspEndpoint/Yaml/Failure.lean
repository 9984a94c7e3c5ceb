import LspEndpoint.Number.Integer
import LspEndpoint.Text.Quoted

/-!
Why a YAML text has no value. Most often it is malformed; a scalar can also name a character, a number
or a date that does not exist.
-/
namespace LspEndpoint.Yaml

inductive Failure
  | malformed
  | noCharacter
  | characterTooLarge
  | digits (base : Nat) (text : Text)
  | integer (e : IntegerError)
  | float (text : Text)
  | year (n : Nat)
  | month
  | day
  | hour
  | minute
  | second
  | offset (span : Text)
  | noText
  | noTimestamp
  | tooManyPlaces
  | entriesForText
  | endless
  | word (text : Text)
deriving DecidableEq

def Failure.message : Failure → Text
  | .malformed => "Failed to parse config YAML"
  | .noCharacter => "chr() arg not in range(0x110000)"
  | .characterTooLarge => "Python int too large to convert to C int"
  | .digits base t =>
    "invalid literal for int() with base " ++ Text.ofNat base ++ ": " ++ t.quoted.take 200
  | .integer e => e.message
  | .float t => "could not convert string to float: " ++ t.quoted
  | .year n => "year " ++ Text.ofNat n ++ " is out of range"
  | .month => "month must be in 1..12"
  | .day => "day is out of range for month"
  | .hour => "hour must be in 0..23"
  | .minute => "minute must be in 0..59"
  | .second => "second must be in 0..59"
  | .offset span =>
    "offset must be a timedelta strictly between -timedelta(hours=24) and timedelta(hours=24), not " ++
      span ++ "."
  | .noText => "string index out of range"
  | .noTimestamp => "'NoneType' object has no attribute 'groupdict'"
  | .tooManyPlaces => "int too large to convert to float"
  | .entriesForText => "expected string or bytes-like object, got 'list'"
  | .endless => "maximum recursion depth exceeded"
  | .word t => t.quoted

abbrev Parsed (α : Type) := Except Failure α

end LspEndpoint.Yaml
