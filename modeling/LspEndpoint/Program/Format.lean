import LspEndpoint.Number.Rounded
import LspEndpoint.Program.Basic
import LspEndpoint.Program.Escape
import LspEndpoint.Program.Quoting

/-!
Printing formats. A format is text with directives, each of which shows the next argument; it is used
again while it takes arguments and some are left. A number that cannot be read as a whole is complained
about and shown as far as it was read.
-/
namespace LspEndpoint.Program

/-- How formats are read: the escapes, the precision of numbers with a point, what stands in front of
complaints, whether a shell reads them, which lets its complaints go ahead of its output, and whether no more
is said than the standard wants. -/
structure Dialect where
  escapes : Escapes
  precision : Precision
  who : Text
  inShell : Bool
  isStrict : Bool

/-- A width or a precision: left out, given, or taken from an argument. -/
inductive Extent
  | unset
  | exactly (n : Nat)
  | argument
deriving DecidableEq

def decimalValue (digits : Text) : Nat := digits.foldl (fun n c => n * 10 + c.digitValue) 0

/-- The extent at the start of a text, and what follows it. -/
def Extent.read (t : Text) : Extent × Text :=
  match t.takeWhile CodePoint.isDigit with
  | [] => if t.head? = some (CodePoint.ofChar '*') then (.argument, t.tail) else (.unset, t)
  | digits => (.exactly (decimalValue digits), t.dropWhile CodePoint.isDigit)

/-- What stands behind a percent sign. The length counts all of it. -/
structure Directive where
  flags : Text
  width : Extent
  precision : Extent
  conversion : Option CodePoint
  length : Nat

namespace Directive

def isFlag (d : Dialect) (c : CodePoint) : Bool :=
  c = '#' || c = '-' || c = '+' || c = ' ' || c = '0' || (!d.inShell && (c = '\'' || c = 'I'))

/-- The letters for the size of a number, which make no difference. -/
def isModifier (c : CodePoint) : Bool :=
  c = 'h' || c = 'l' || c = 'L' || c = 'j' || c = 't' || c = 'z'

def readPrecision (t : Text) : Extent × Text :=
  match t with
  | c :: rest =>
    if c = '.' then
      match Extent.read rest with
      | (.unset, rest) => (.exactly 0, rest)
      | r => r
    else (.unset, c :: rest)
  | [] => (.unset, [])

def read (d : Dialect) (t : Text) : Directive :=
  let (width, rest) := Extent.read (t.dropWhile (isFlag d))
  let (precision, rest) := readPrecision rest
  let rest := if d.inShell then rest else rest.dropWhile isModifier
  ⟨t.takeWhile (isFlag d), width, precision, rest.head?, t.length - rest.tail.length⟩

def has (x : Directive) (flag : Char) : Bool := x.flags.contains (CodePoint.ofChar flag)

def isSigned (c : CodePoint) : Bool := c = 'd' || c = 'i'

def isNumeric (c : CodePoint) : Bool :=
  isSigned c || c = 'u' || c = 'o' || c = 'x' || c = 'X'

/-- The conversions to numbers with a point or an exponent. -/
def isPointed (c : CodePoint) : Bool := (Text.ofString "aAeEfFgG").contains c

/-- Outside a shell a flag that has no meaning for a conversion is refused. -/
def isKnown (d : Dialect) (x : Directive) (c : CodePoint) : Bool :=
  if c = 'b' then d.inShell || x.length = 1
  else if c = 'q' then !d.inShell && x.length = 1
  else if isPointed c then
    d.inShell || !(Text.ofString "aAeE").contains c || !(x.has '\'' || x.has 'I')
  else if c = 's' then d.inShell || !(x.has '#' || x.has '0' || x.has '\'' || x.has 'I')
  else if c = 'c' then
    d.inShell || !(x.has '#' || x.has '0' || x.has '\'' || x.has 'I' || x.precision ≠ .unset)
  else if isSigned c || c = 'u' then d.inShell || !x.has '#'
  else isNumeric c && (d.inShell || !(x.has '\'' || x.has 'I'))

end Directive

/-- What is wrong with an argument that stands for a number. -/
inductive Misread
  | noNumber
  | moreThanNumber
  | outOfRange
  | moreThanOctet (rest : Text)

def Misread.message (d : Dialect) (arg : Text) : Misread → Text
  | moreThanOctet rest =>
    "warning: " ++ rest ++ ": character(s) following character constant have been ignored"
  | noNumber => if d.inShell then arg ++ ": expected numeric value"
      else quotedValue arg ++ ": expected a numeric value"
  | moreThanNumber => if d.inShell then arg ++ ": not completely converted"
      else quotedValue arg ++ ": value not completely converted"
  | outOfRange => (if d.inShell then arg else quotedValue arg) ++ ": Numerical result out of range"

namespace Numeral

def isBlank (c : CodePoint) : Bool := c = ' ' || (9 ≤ c.val && c.val ≤ 13)

def digits (base : Nat) (t : Text) : Text :=
  t.takeWhile fun c => (c.hexValue?.map fun n => decide (n < base)).getD false

/-- The magnitude at the start of a text, in base eight behind a zero and in base sixteen behind `0x`,
and what follows it. -/
def magnitude? (t : Text) : Option (Nat × Text) :=
  let isHex := (t.startsWith "0x" || t.startsWith "0X") && digits 16 (t.drop 2) ≠ []
  let base := if isHex then 16 else if t.startsWith "0" then 8 else 10
  let t := if isHex then t.drop 2 else t
  match digits base t with
  | [] => none
  | ds => some (ds.foldl (fun n c => n * base + c.hexValue?.getD 0) 0, t.drop ds.length)

/-- The number of that sign and magnitude in sixty-four bits, and whether it had to be cut. -/
def bounded (signed negative : Bool) (magnitude : Nat) : Int × Bool :=
  if signed then
    if negative then (-(min magnitude 0x8000000000000000 : Nat), 0x8000000000000000 < magnitude)
    else (min magnitude 0x7FFFFFFFFFFFFFFF, 0x7FFFFFFFFFFFFFFF < magnitude)
  else if 0xFFFFFFFFFFFFFFFF < magnitude then (0xFFFFFFFFFFFFFFFF, true)
  else if negative then (((0x10000000000000000 - magnitude) % 0x10000000000000000 : Nat), false)
  else (magnitude, false)

/-- The octet behind a quote, of which outside a shell there should be only one. -/
def quotedOctet (d : Dialect) (t : Text) : Nat × Option Misread :=
  ((t.head?.map CodePoint.val).getD 0,
    if d.inShell || d.isStrict || t.tail.isEmpty then none else some (.moreThanOctet t.tail))

/-- The value of an argument. Behind a quote the next octet counts. -/
def read (d : Dialect) (signed : Bool) : Text → Int × Option Misread
  | [] => (0, none)
  | c :: t =>
    if (c = '\'' || c = '"') && (d.inShell || t ≠ []) then
      let (n, misread) := quotedOctet d t
      (n, misread)
    else
      let u := (c :: t).dropWhile isBlank
      let negative := u.head? = some (CodePoint.ofChar '-')
      match magnitude? (if negative || u.head? = some (CodePoint.ofChar '+') then u.tail else u) with
      | none => (0, some .noNumber)
      | some (magnitude, rest) =>
        let (n, isCut) := bounded signed negative magnitude
        let misread : Option Misread :=
          if isCut && (!d.inShell || rest = []) then some .outOfRange
          else if rest ≠ [] then some .moreThanNumber
          else none
        (n, misread)

/-- The number with a point that an argument is. -/
def readPointed (d : Dialect) : Text → Rounded × Option Misread
  | [] => (⟨false, .finite 0 0⟩, none)
  | c :: t =>
    if (c = '\'' || c = '"') && (d.inShell || t ≠ []) then
      let (n, misread) := quotedOctet d t
      (⟨false, .finite n 0⟩, misread)
    else
      match Rounded.read? d.precision (c :: t) with
      | none => (⟨false, .finite 0 0⟩, some .noNumber)
      | some (r, isOut, rest) =>
        let misread : Option Misread :=
          if isOut && (!d.inShell || rest = []) then some .outOfRange
          else if rest ≠ [] then some .moreThanNumber
          else none
        (r, misread)

end Numeral

/-- A width or a precision that is settled. -/
structure Extents where
  left : Bool
  width : Nat
  precision : Option Nat

namespace Extents

def fill (x : Extents) (t : Text) : Text :=
  let blanks := List.replicate (x.width - t.length) (CodePoint.ofChar ' ')
  if x.left then t ++ blanks else blanks ++ t

def zeros (width : Nat) (t : Text) : Text :=
  List.replicate (width - t.length) (CodePoint.ofChar '0') ++ t

def radix (c : CodePoint) : Nat := if c = 'o' then 8 else if c = 'x' || c = 'X' then 16 else 10

def upper (c : CodePoint) : CodePoint :=
  if 0x61 ≤ c.val && c.val ≤ 0x7A then CodePoint.ofNat (c.val - 0x20) else c

/-- The digits of a number, at least as many as the precision says. -/
def digits (x : Extents) (d : Directive) (c : CodePoint) (n : Nat) : Text :=
  let plain : Text := if n = 0 && x.precision = some 0 then []
    else (Nat.toDigits (radix c) n).map CodePoint.ofChar
  let shown := zeros (x.precision.getD 0) (if c = 'X' then plain.map upper else plain)
  if c = 'o' && d.has '#' && shown.head? ≠ some (CodePoint.ofChar '0') then "0" ++ shown else shown

/-- What stands in front of the digits. -/
def lead (d : Directive) (c : CodePoint) (n : Int) : Text :=
  if n < 0 then "-"
  else if Directive.isSigned c then (if d.has '+' then "+" else if d.has ' ' then " " else [])
  else if (c = 'x' || c = 'X') && d.has '#' && n ≠ 0 then ['0', c]
  else []

def number (x : Extents) (d : Directive) (c : CodePoint) (n : Int) : Text :=
  let lead := lead d c n
  let digits := x.digits d c n.natAbs
  if d.has '0' && !x.left && x.precision = none then lead ++ zeros (x.width - lead.length) digits
  else x.fill (lead ++ digits)

/-- The magnitude of a number with a point. -/
def magnitude (x : Extents) (d : Directive) (p : Precision) (c : CodePoint) : Magnitude → Text
  | .infinite => "inf"
  | .nan => "nan"
  | .finite mantissa exponent =>
    let r := Rounded.ratio mantissa exponent
    let places := x.precision.getD 6
    if c = 'f' then Rounded.fixed r places (d.has '#')
    else if c = 'e' then Rounded.scientific r places (d.has '#')
    else if c = 'g' then Rounded.general r places (d.has '#')
    else Rounded.hexadecimal p mantissa exponent x.precision (d.has '#')

def pointed (x : Extents) (d : Directive) (p : Precision) (c : CodePoint) (n : Rounded) : Text :=
  let lower := c.toAsciiLower
  let shown := x.magnitude d p lower n.magnitude
  let shown := if c = lower then shown else shown.map upper
  let lead : Text := if n.isNegative then "-" else if d.has '+' then "+" else if d.has ' ' then " " else []
  let isFinite := match n.magnitude with
    | .finite _ _ => true
    | _ => false
  if d.has '0' && !x.left && isFinite then
    let front := if lower = 'a' then 2 else 0
    lead ++ shown.take front ++ zeros (x.width - lead.length - front) (shown.drop front)
  else x.fill (lead ++ shown)

/-- As much of a text as the precision says. -/
def cut (x : Extents) (t : Text) : Text := x.fill (match x.precision with
  | some n => t.take n
  | none => t)

end Extents

/-- What a format has printed, backwards, and what is left of its arguments. -/
structure Printing where
  chunks : List Chunk
  args : List Text
  status : Nat
  goesOn : Bool

namespace Printing

def put (p : Printing) (t : Text) : Printing := { p with chunks := ⟨false, t⟩ :: p.chunks }

def complain (p : Printing) (d : Dialect) (message : Text) : Printing :=
  { p with chunks := ⟨true, d.who ++ message ++ "\n"⟩ :: p.chunks, status := 1 }

def stop (p : Printing) : Printing := { p with goesOn := false }

/-- Says what is wrong with an argument; a warning is no failure. -/
def note (p : Printing) (d : Dialect) (arg : Text) : Option Misread → Printing
  | none => p
  | some m =>
    let noted := p.complain d (m.message d arg)
    match m with
    | .moreThanOctet _ => { noted with status := p.status }
    | _ => noted

/-- Complains about the format itself and ends. -/
def refuse (p : Printing) (d : Dialect) (message : Text) : Printing :=
  { p.complain d message with status := if d.inShell then 2 else 1, goesOn := false }

/-- The next argument, the empty text when there is none. -/
def next (p : Printing) : Text × Printing := (p.args.headD [], { p with args := p.args.tail })

def nextNumber (p : Printing) (d : Dialect) (signed : Bool) : Int × Printing :=
  let (arg, p) := p.next
  let (n, misread) := Numeral.read d signed arg
  (n, p.note d arg misread)

/-- A number cut to thirty-two bits. -/
def wrapped (n : Int) : Int := (n + 0x80000000) % 0x100000000 - 0x80000000

/-- The extent that the next argument gives. A shell cuts it; else it must not be too long. -/
def nextExtent (p : Printing) (d : Dialect) (what : String) (least : Int) : Int × Printing :=
  let arg := p.next.1
  let (n, p) := p.nextNumber d true
  if d.inShell then (wrapped n, p)
  else if 0x7FFFFFFF < n || n < least then
    (0, p.refuse d ("invalid " ++ Text.ofString what ++ ": " ++ quotedValue arg))
  else (n, p)

/-- Takes the extents that arguments give. A negative width puts the blanks behind. -/
def extents (p : Printing) (d : Dialect) (x : Directive) : Extents × Printing :=
  let (width, p) : Int × Printing := match x.width with
    | .unset => (0, p)
    | .exactly n => (n, p)
    | .argument => p.nextExtent d "field width" (-0x80000000)
  let (precision, p) : Option Int × Printing := match x.precision with
    | .unset => (none, p)
    | .exactly n => (some n, p)
    | .argument =>
      if p.goesOn then
        let (n, p) := p.nextExtent d "precision" (-0x8000000000000000)
        (some n, p)
      else (none, p)
  (⟨x.has '-' || width < 0, width.natAbs, (precision.filter (0 ≤ ·)).map Int.toNat⟩, p)

/-- Shows the next argument as the conversion says. -/
def convert (p : Printing) (d : Dialect) (x : Directive) (e : Extents) (c : CodePoint) : Printing :=
  if Directive.isNumeric c then
    let (n, p) := p.nextNumber d (Directive.isSigned c)
    p.put (e.number x c n)
  else if Directive.isPointed c then
    let (arg, p) := p.next
    let (n, misread) := Numeral.readPointed d arg
    (p.note d arg misread).put (e.pointed x d.precision c n)
  else if c = 'q' then
    match p.args with
    | [] => p
    | arg :: args => { p.put (shownName false arg) with args }
  else
    let (arg, p) := p.next
    if c = 's' then p.put (e.cut arg)
    else if c = 'c' then p.put (e.fill [arg.headD (CodePoint.ofNat 0)])
    else
      let (t, ending) := unescape { d.escapes with zeroFirst := true } arg
      match ending with
      | .goesOn => p.put (e.cut t)
      | .isCut => (p.put (e.cut t)).stop
      | .isBroken message => (p.put t).refuse d message

/-- A directive, whose text is at hand for a complaint; its extents are taken in any case. -/
def direct (p : Printing) (d : Dialect) (x : Directive) (text : Text) : Printing :=
  let (e, p) := p.extents d x
  let unknown : Text := if d.inShell then "invalid directive" else "invalid conversion specification"
  if !p.goesOn then p else
  match x.conversion with
  | none => p.refuse d (if d.inShell then "missing format character" else "%" ++ text ++ ": " ++ unknown)
  | some c => if x.isKnown d c then p.convert d x e c else p.refuse d ("%" ++ text ++ ": " ++ unknown)

end Printing

/-- One pass over a format, behind `skip` characters that have been read. -/
def printed (d : Dialect) : (skip : Nat) → Text → Printing → Printing
  | _, [], p => p
  | skip + 1, _ :: t, p => printed d skip t p
  | 0, c :: t, p =>
    if c = '\\' then
      if d.escapes.extended && t.head? = some (CodePoint.ofChar 'c') then p.stop
      else
        match Escape.read d.escapes t with
        | .octets shown taken => printed d taken t (p.put shown)
        | .unknown => printed d 0 t (p.put [c])
        | .broken message => p.refuse d message
    else if c = '%' then
      if t.head? = some (CodePoint.ofChar '%') then printed d 1 t (p.put [c])
      else
        let x := Directive.read d t
        let p := p.direct d x (t.take x.length)
        if p.goesOn then printed d x.length t p else p
    else printed d 0 t (p.put [c])

/-- The format is used again while it takes arguments and some are left. -/
def printAll (d : Dialect) (text : Text) : (rounds : Nat) → Printing → Printing
  | 0, p => p
  | rounds + 1, p =>
    let q := printed d 0 text p
    if q.goesOn && q.args ≠ [] && q.args.length < p.args.length then printAll d text rounds q else q

/-- What a format prints, and the status. Outside a shell, arguments that it takes no notice of are
complained about. -/
def print (d : Dialect) (text : Text) (args : List Text) : List Chunk × Nat :=
  let p := printAll d text (args.length + 1) ⟨[], args, 0, true⟩
  let chunks := p.chunks.reverse
  if d.inShell then (chunks.filter Chunk.isError ++ chunks.filter (fun c => !c.isError), p.status)
  else
    match p.goesOn, p.args with
    | true, first :: _ =>
      let warning :=
        d.who ++ "warning: ignoring excess arguments, starting with " ++ quotedValue first ++ "\n"
      (chunks ++ [⟨true, warning⟩], p.status)
    | _, _ => (chunks, p.status)

end LspEndpoint.Program
