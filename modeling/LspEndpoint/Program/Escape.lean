import LspEndpoint.Text.CodePoint

/-!
Backslash escapes as programs that print read them. Octets are held as code points below 256. Programs
differ in whether an octal number may follow a zero, in whether there is a letter for the escape octet, in
whether hexadecimal escapes are known, and in whether characters may be given by their numbers; an escape
that is not known stands for itself, and `\c` ends the output.
-/
namespace LspEndpoint.Program

structure Escapes where
  zeroFirst : Bool
  lettered : Bool
  extended : Bool
  numbered : Bool

def isOctal (c : CodePoint) : Bool := 0x30 ≤ c.val && c.val < 0x38

/-- The octet of a number. -/
def octet (n : Nat) : CodePoint := CodePoint.ofNat (n % 256)

def octalValue (digits : Text) : Nat := digits.foldl (fun n c => n * 8 + (c.val - 0x30)) 0

def hexValue (digits : Text) : Nat := digits.foldl (fun n c => n * 16 + c.hexValue?.getD 0) 0

/-- What an escape is: octets, with the number of characters behind the backslash that it takes; nothing
that is known; or something that must not be. -/
inductive Escape
  | octets (t : Text) (taken : Nat)
  | unknown
  | broken (message : Text)

/-- What a one-letter escape stands for. -/
def letter? (e : Escapes) (c : CodePoint) : Option CodePoint :=
  if c = '\\' then some c
  else if c = 'a' then some (octet 7)
  else if c = 'b' then some (octet 8)
  else if c = 't' then some (octet 9)
  else if c = 'n' then some (octet 10)
  else if c = 'v' then some (octet 11)
  else if c = 'f' then some (octet 12)
  else if c = 'r' then some (octet 13)
  else if e.lettered && c = 'e' then some (octet 27)
  else if e.numbered && c = '"' then some c
  else none

namespace Escape

def missingDigits : Escape := broken "missing hexadecimal number in escape"

/-- A number with so many hexadecimal digits in capitals. -/
def capitalHex (width n : Nat) : Text :=
  (Text.ofHex width n).map fun c => if 0x61 ≤ c.val then CodePoint.ofNat (c.val - 0x20) else c

/-- The character of a number, behind the letter that says how many digits that has. Most characters of
the first rows must be given as they are; those that are not in the set of characters are left as escapes. -/
def numbered (letter : CodePoint) (t : Text) : Escape :=
  let width := if letter = 'u' then 4 else 8
  let digits := (t.take width).takeWhile fun d => d.hexValue?.isSome
  if digits.length < width then missingDigits
  else
    let n := hexValue digits
    if n = 0x24 || n = 0x40 || n = 0x60 then octets [octet n] (width + 1)
    else if n ≤ 0x9F || (0xD800 ≤ n && n ≤ 0xDFFF) then
      broken ("invalid universal character name \\" ++ [letter] ++ Text.ofHex width n)
    else if n < 0x10000 then octets ("\\u" ++ capitalHex 4 n) (width + 1)
    else octets ("\\U" ++ capitalHex 8 n) (width + 1)

/-- The escape behind a backslash. -/
def read (e : Escapes) : Text → Escape
  | [] => unknown
  | c :: t =>
    match letter? e c with
    | some d => octets [d] 1
    | none =>
      if isOctal c then
        let zero := e.zeroFirst && c = '0'
        let digits := ((if zero then t else c :: t).take 3).takeWhile isOctal
        octets [octet (octalValue digits)] (digits.length + if zero then 1 else 0)
      else if e.extended && c = 'x' then
        match (t.take 2).takeWhile fun d => d.hexValue?.isSome with
        | [] => if e.numbered then missingDigits else unknown
        | digits => octets [octet (hexValue digits)] (digits.length + 1)
      else if e.numbered && (c = 'u' || c = 'U') then numbered c t
      else unknown

end Escape

/-- How a text with escapes ends: as its output goes on, where it is cut, or at a fault. -/
inductive Ending
  | goesOn
  | isCut
  | isBroken (message : Text)
deriving DecidableEq

/-- The text with its escapes read, held backwards, and how it ends. -/
def unescapeFrom (e : Escapes) : (skip : Nat) → (done : Text) → Text → Text × Ending
  | _, done, [] => (done, .goesOn)
  | skip + 1, done, _ :: t => unescapeFrom e skip done t
  | 0, done, c :: t =>
    if c = '\\' then
      if t.head? = some (CodePoint.ofChar 'c') then (done, .isCut)
      else
        match Escape.read e t with
        | .octets shown taken => unescapeFrom e taken (shown.reverse ++ done) t
        | .unknown => unescapeFrom e 0 (c :: done) t
        | .broken message => (done, .isBroken message)
    else unescapeFrom e 0 (c :: done) t

def unescape (e : Escapes) (t : Text) : Text × Ending :=
  let (done, ending) := unescapeFrom e 0 [] t
  (done.reverse, ending)

end LspEndpoint.Program
