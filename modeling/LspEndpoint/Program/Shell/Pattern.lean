import LspEndpoint.Text.CodePoint

/-!
Patterns. A star matches any octets, a question mark any one, and brackets one of a set; everything else
matches itself.
-/
namespace LspEndpoint.Program.Shell

/-- A member of a set of octets. -/
inductive Member
  | between (first last : Nat)
  | kind (name : Text)
deriving DecidableEq

inductive Glob
  | octet (c : CodePoint)
  | any
  | many
  | set (isInverted : Bool) (members : List Member)
deriving DecidableEq

namespace Member

/-- The kinds of octets that have a name. -/
def isOfKind (name : Text) (c : CodePoint) : Bool :=
  let n := c.val
  let isUpper := 0x41 ≤ n && n ≤ 0x5A
  let isLower := 0x61 ≤ n && n ≤ 0x7A
  let isPrintable := 0x21 ≤ n && n ≤ 0x7E
  if name = "alpha" then isUpper || isLower
  else if name = "digit" then c.isDigit
  else if name = "alnum" then isUpper || isLower || c.isDigit
  else if name = "upper" then isUpper
  else if name = "lower" then isLower
  else if name = "space" then n = 0x20 || (9 ≤ n && n ≤ 13)
  else if name = "blank" then n = 0x20 || n = 9
  else if name = "punct" then isPrintable && !(isUpper || isLower || c.isDigit)
  else if name = "graph" then isPrintable
  else if name = "print" then isPrintable || n = 0x20
  else if name = "cntrl" then n < 0x20 || n = 0x7F
  else if name = "xdigit" then c.hexValue?.isSome
  else false

def kinds : List String :=
  ["alpha", "digit", "alnum", "upper", "lower", "space", "blank", "punct", "graph", "print", "cntrl",
    "xdigit"]

def holds (c : CodePoint) : Member → Bool
  | between first last => first ≤ c.val && c.val ≤ last
  | kind name => isOfKind name c

end Member

namespace Glob

/-- An octet of a pattern, and whether it only means itself. -/
abbrev Signs := List (CodePoint × Bool)

def plain? (c : Char) : CodePoint × Bool → Bool
  | (d, isEscaped) => !isEscaped && d = c

/-- The name of a kind between colons and brackets, and how many signs it takes. -/
def kind? (signs : Signs) : Option (Text × Nat) :=
  let name := (signs.takeWhile fun s => s.1.isAsciiLetter).map Prod.fst
  match signs.drop name.length with
  | a :: b :: _ =>
    if plain? ':' a && plain? ']' b && Member.kinds.any fun k => Text.ofString k = name then
      some (name, name.length + 2)
    else none
  | _ => none

/-- The members of a set and how many signs they take with the bracket at their end; none if there is no
such bracket. The first sign is a member in any case. -/
def members (isFirst : Bool) : (bound : Nat) → Signs → Option (List Member × Nat)
  | 0, _ => none
  | bound + 1, signs =>
    let go (m : Member) (taken : Nat) : Option (List Member × Nat) :=
      (members false bound (signs.drop taken)).map fun r => (m :: r.1, r.2 + taken)
    match signs with
    | [] => none
    | s :: rest =>
      if plain? ']' s && !isFirst then some ([], 1)
      else
        match if plain? '[' s && rest.head?.any (plain? ':') then kind? rest.tail else none with
        | some (name, taken) => go (.kind name) (taken + 2)
        | none =>
          match rest with
          | d :: last :: _ =>
            if plain? '-' d && !plain? ']' last then go (.between s.1.val last.1.val) 3
            else go (.between s.1.val s.1.val) 1
          | _ => go (.between s.1.val s.1.val) 1

/-- The set behind an opening bracket, and how many signs it takes. -/
def set? (signs : Signs) : Option (Glob × Nat) :=
  match signs with
  | s :: rest =>
    if plain? '!' s || plain? '^' s then
      (members true signs.length rest).map fun r => (.set true r.1, r.2 + 1)
    else (members true (signs.length + 1) signs).map fun r => (.set false r.1, r.2)
  | [] => none

/-- The pattern behind `skip` signs that are read. -/
def ofSigns : (skip : Nat) → Signs → List Glob
  | _, [] => []
  | skip + 1, _ :: rest => ofSigns skip rest
  | 0, s :: rest =>
    if plain? '*' s then many :: ofSigns 0 rest
    else if plain? '?' s then any :: ofSigns 0 rest
    else if plain? '\\' s then
      match rest with
      | (c, _) :: rest => octet c :: ofSigns 0 rest
      | [] => [octet s.1]
    else
      match if plain? '[' s then set? rest else none with
      | some (g, taken) => g :: ofSigns taken rest
      | none => octet s.1 :: ofSigns 0 rest

def fits (g : Glob) (c : CodePoint) : Bool :=
  match g with
  | octet d => c = d
  | any | many => true
  | set isInverted ms => (ms.any fun m => m.holds c) != isInverted

/-- The rests that a star can leave. -/
def rests : Text → List Text
  | [] => [[]]
  | c :: t => (c :: t) :: rests t

/-- Whether a pattern matches all of a text. -/
def isMatch : List Glob → Text → Bool
  | [], t => t = []
  | many :: gs, t => (rests t).any (isMatch gs)
  | g :: gs, t =>
    match t with
    | [] => false
    | c :: t => g.fits c && isMatch gs t

/-- Whether a pattern could match anything but one text. -/
def isOpen (gs : List Glob) : Bool := gs.any fun
  | octet _ => false
  | _ => true

end Glob

/-- Where a text is parted when a match of a pattern is taken from its start or its end. There may be breaks
in the text; a match ends at the next one, and a search from the left does not go past the first. -/
def parting? (atEnd longest : Bool) (gs : List Glob) (t : List (Option CodePoint)) : Option Nat :=
  let upToBreak (u : List (Option CodePoint)) : Text := (u.takeWhile Option.isSome).filterMap id
  let places := if atEnd = longest then List.range ((upToBreak t).length + 1)
    else (List.range (t.length + 1)).reverse
  places.find? fun n => Glob.isMatch gs (upToBreak (if atEnd then t.drop n else t.take n))

end LspEndpoint.Program.Shell
