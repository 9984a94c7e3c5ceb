import LspEndpoint.Text.Quoted
import LspEndpoint.Uri.Address

/-!
Splitting a URI into scheme, authority and path. Control characters and spaces in front are dropped,
and so are tabs and line ends anywhere. The authority may hold brackets only around an address, and
no character whose compatibility form contains a delimiter.
-/
namespace LspEndpoint.Uri

structure Parts where
  scheme : Text
  authority : Text
  path : Text
deriving DecidableEq

inductive Error
  | unbalanced
  | notAnAddress (host : Text)
  | bracketedIPv4
  | futureAddress
  | delimiter (authority : Text)
deriving DecidableEq

def Error.message : Error → Text
  | .unbalanced => "Invalid IPv6 URL"
  | .notAnAddress host => host.quoted ++ " does not appear to be an IPv4 or IPv6 address"
  | .bracketedIPv4 => "An IPv4 address cannot be in brackets"
  | .futureAddress => "IPvFuture address is invalid"
  | .delimiter authority =>
    "netloc '" ++ authority ++ "' contains invalid characters under NFKC normalization"

/-- The code points beyond ASCII whose compatibility form contains one of `/?#@:`. -/
def compatibilityDelimiters : List Nat :=
  [0x2047, 0x2048, 0x2049, 0x2100, 0x2101, 0x2105, 0x2106, 0x2A74, 0xFE13, 0xFE16, 0xFE55, 0xFE56,
   0xFE5F, 0xFE6B, 0xFF03, 0xFF0F, 0xFF1A, 0xFF1F, 0xFF20]

def isRemoved (c : CodePoint) : Bool := c.val == 0x09 || c.val == 0x0A || c.val == 0x0D

/-- The characters that are looked at. -/
def cleaned (uri : Text) : Text :=
  (uri.dropWhile fun c => c.val ≤ 0x20).filter fun c => !isRemoved c

def isSchemeCharacter (c : CodePoint) : Bool :=
  c.isAsciiLetter || c.isDigit || c = '+' || c = '-' || c = '.'

def isScheme : Text → Bool
  | [] => false
  | c :: t => c.isAsciiLetter && t.all isSchemeCharacter

/-- The scheme, empty if there is none, and what follows its colon. -/
def splitScheme (t : Text) : Text × Text :=
  match t.after? ':' with
  | some rest => if isScheme (t.before ':') then ((t.before ':').toAsciiLower, rest) else ([], t)
  | none => ([], t)

def endsAuthority (c : CodePoint) : Bool := c = '/' || c = '?' || c = '#'

/-- The authority after two slashes, and what follows it. -/
def splitAuthority (t : Text) : Text × Text :=
  if t.startsWith "//" then
    let rest := t.drop 2
    (rest.takeWhile fun c => !endsAuthority c, rest.dropWhile fun c => !endsAuthority c)
  else ([], t)

/-- The host of a name that stands alone or in brackets, with a port behind a colon or without one;
none if it is anything else. The name follows the last `@`. -/
def host? (authority : Text) : Option Text :=
  let place := authority.afterLast '@'
  match place.after? '[' with
  | none => some (place.before ':')
  | some bracketed =>
    let port := (bracketed.after? ']').getD []
    if place.before '[' ≠ [] then none
    else if port ≠ [] && !port.startsWith ":" then none
    else some (bracketed.before ']')

/-- What is wrong with a host in brackets, if anything. -/
def hostFault? (host : Text) : Option Error :=
  if host.startsWith "v" then if isFutureAddress host then none else some .futureAddress
  else if isIPv4 host then some .bracketedIPv4
  else if isIPv6 host then none
  else some (.notAnAddress host)

/-- What is wrong with the brackets of an authority, if anything. -/
def bracketFault? (authority : Text) : Option Error :=
  let opens := authority.contains (CodePoint.ofChar '[')
  let closes := authority.contains (CodePoint.ofChar ']')
  if opens != closes then some .unbalanced
  else if !opens then none
  else
    match host? authority with
    | none => some .unbalanced
    | some host => hostFault? host

def hidesDelimiter (authority : Text) : Bool :=
  authority.any fun c => compatibilityDelimiters.contains c.val

def split (uri : Text) : Except Error Parts :=
  let (scheme, afterScheme) := splitScheme (cleaned uri)
  let (authority, rest) := splitAuthority afterScheme
  match bracketFault? authority with
  | some e => .error e
  | none =>
    if hidesDelimiter authority then .error (.delimiter authority)
    else .ok ⟨scheme, authority, Text.before '?' (Text.before '#' rest)⟩

end LspEndpoint.Uri
