import LspEndpoint.Program.Shell.Source

/-!
Reading words. What an octet means depends on the quotation and on the braces that it stands in; each of
them is a context, and contexts are stacked where a parameter or a calculation starts one of its own.
-/
namespace LspEndpoint.Program.Shell

inductive Quotation
  | plain
  | double
  | single
  | arithmetic
deriving DecidableEq

/-- Where a reader of words is: the quotation, whether it is a double one, how many braces are open in
it and how many of them in double quotation marks, whether such marks are open inside of braces, whether
a parameter started the context, and how many parentheses are open. -/
structure Context where
  quotation : Quotation
  isDouble : Bool
  braces : Nat
  doubleBraces : Nat
  innerDouble : Bool
  ofParameter : Bool
  parentheses : Nat

namespace Context

def start (q : Quotation) (isDouble : Bool) : Context := ⟨q, isDouble, 0, 0, false, false, 0⟩

end Context

/-- What parts are gathered for. -/
inductive Opener
  | parameter (name : Text) (use : Use) (countsEmpty : Bool)
  | arithmetic

def Opener.part (parts : List Part) : Opener → Part
  | parameter name use countsEmpty => .parameter name use countsEmpty parts
  | arithmetic => .arithmetic parts

/-- A word that is being read: the parts so far, backwards, those around them, and the contexts. -/
structure Draft where
  parts : List Part
  outer : List (Opener × List Part)
  context : Context
  contexts : List Context
  isQuoted : Bool

namespace Draft

def start (q : Quotation) (isDouble : Bool) : Draft := ⟨[], [], .start q isDouble, [], false⟩

def push (d : Draft) (p : Part) : Draft := { d with parts := p :: d.parts }

def octet (d : Draft) (c : CodePoint) : Draft := d.push (.octet c false)

def escaped (d : Draft) (c : CodePoint) : Draft := d.push (.octet c true)

def quoting (d : Draft) : Draft := { d with isQuoted := true }

def inContext (d : Draft) (f : Context → Context) : Draft := { d with context := f d.context }

def enter (d : Draft) (c : Context) : Draft := { d with context := c, contexts := d.context :: d.contexts }

def leave (d : Draft) : Draft :=
  match d.contexts with
  | [] => d
  | c :: rest => { d with context := c, contexts := rest }

def openPart (d : Draft) (o : Opener) : Draft := { d with parts := [], outer := (o, d.parts) :: d.outer }

def closePart (d : Draft) : Draft :=
  match d.outer with
  | [] => d
  | (o, before) :: rest => { d with parts := o.part d.parts.reverse :: before, outer := rest }

/-- The start or the end of a quotation. Texts behind redirections have none. -/
def mark (d : Draft) (inText : Bool) : Draft := if inText then d else d.push .quote

/-- A double quotation mark, which inside of braces opens or closes a quotation of its own. -/
def doubleMark (d : Draft) (inText : Bool) : Draft :=
  (d.inContext fun c => if c.braces = 0 then c else { c with innerDouble := !c.innerDouble }).mark inText

/-- A mark that may end a quotation. -/
def endMark (d : Draft) (inText : Bool) (c : CodePoint) : Draft :=
  if inText && d.context.braces = 0 then d.octet c
  else
    let d := (d.inContext fun x =>
      if x.doubleBraces = 0 then { x with quotation := .plain, isDouble := false } else x).quoting
    if c = '"' then d.doubleMark inText else d.mark inText

/-- A brace that may end a parameter. -/
def endBrace (d : Draft) (c : CodePoint) : Draft :=
  if !d.context.innerDouble && d.context.braces ≠ 0 then
    let d := d.inContext fun x => { x with braces := x.braces - 1 }
    (if d.context.braces = 0 && d.context.ofParameter then d.leave
      else d.inContext fun x => { x with doubleBraces := x.doubleBraces - 1 }).closePart
  else d.octet c

end Draft

def isNameStart (c : CodePoint) : Bool := c.isAsciiLetter || c = '_'

def isNamePart (c : CodePoint) : Bool := isNameStart c || c.isDigit

def isName : Text → Bool
  | [] => false
  | c :: t => isNameStart c && t.all isNamePart

/-- The parameters whose name is no variable's. -/
def isSpecial (c : CodePoint) : Bool := c.isDigit || (Text.ofString "#?$!-*@").contains c

def isBlank (c : CodePoint) : Bool := c = ' ' || c = '\t'

/-- What ends a word that is not quoted. -/
def endsWord (c : CodePoint) : Bool := isBlank c || (Text.ofString "<>;&|()").contains c

/-- What could mean something in a pattern, and is read as itself in a quotation. -/
def isPatternSign (q : Quotation) (c : CodePoint) : Bool :=
  (q = .double && (Text.ofString "!*?[=~:/-]").contains c) ||
    (q = .single && (Text.ofString "!*?[=~:/-]\\").contains c)

namespace Parse

/-- Octets as long as a test holds, from one that has been read on; and the first one behind them. -/
def nameFrom (test : CodePoint → Bool) (c : Option CodePoint) : Parse (Text × Option CodePoint) := do
  let step : Text × Option CodePoint → Parse ((Text × Option CodePoint) ⊕ (Text × Option CodePoint))
    | (name, some c) => do
      if test c then return .inl (name ++ [c], ← nextJoined) else return .inr (name, some c)
    | (name, none) => return .inr (name, none)
  repeated step (← bound) ([], c)

def is (x : Option CodePoint) (c : Char) : Bool := x = some (CodePoint.ofChar c)

/-- The name of a parameter from its first octet on, whether its length is asked for, whether it is the
name of one, and the octet behind it. -/
def parameterName (isBraced : Bool) (c : CodePoint) (isLength : Bool) :
    Parse (Text × Bool × Bool × Option CodePoint) := do
  if isNameStart c then
    let (name, c) ← nameFrom isNamePart (some c)
    return (name, isLength, true, c)
  else if c.isDigit then
    if isBraced && !isLength then
      let (name, c) ← nameFrom CodePoint.isDigit (some c)
      return (name, false, true, c)
    else return ([c], isLength, true, ← nextJoined)
  else return ([c], isLength, isSpecial c, ← nextJoined)

/-- Behind an opening brace a number sign asks for a length, unless it is a parameter itself. -/
def bracedName (c : CodePoint) : Parse (Text × Bool × Bool × Option CodePoint) := do
  if c ≠ '#' then parameterName true c false
  else
    match ← nextJoined with
    | none => return ("#", false, true, none)
    | some d =>
      if isNamePart d then parameterName true d true
      else
        let e ← nextJoined
        if d = '}' || !is e '}' then
          back e
          return ("#", false, true, some d)
        else return ([d], isSpecial d, isSpecial d, e)

/-- How a parameter in braces is used, from the octet behind its name on. -/
def use (c : Option CodePoint) : Parse (Use × Bool) := do
  let (countsEmpty, c) ← if is c ':' then do pure (true, ← nextJoined) else pure (false, c)
  let trimmed (sign : Char) (atEnd : Bool) : Parse (Use × Bool) := do
    let d ← nextJoined
    if is d sign then return (.trimmed atEnd true, false)
    back d
    return (.trimmed atEnd false, false)
  if is c '}' then return (.value, countsEmpty)
  else if is c '-' then return (.orElse, countsEmpty)
  else if is c '+' then return (.instead, countsEmpty)
  else if is c '?' then return (.orFail, countsEmpty)
  else if is c '=' then return (.orAssign, countsEmpty)
  else if is c '%' && !countsEmpty then trimmed '%' true
  else if is c '#' && !countsEmpty then trimmed '#' false
  else return (.malformed, countsEmpty)

/-- Opens a parameter in braces; what is trimmed off has a context without quotation. -/
def openParameter (d : Draft) (name : Text) (use : Use) (countsEmpty : Bool) : Draft :=
  let q : Quotation := match use with
    | .trimmed _ _ => .plain
    | _ => if d.context.quotation = .arithmetic then .double else d.context.quotation
  let d := if q ≠ d.context.quotation || d.context.innerDouble then
      d.enter { Context.start q (q ≠ .plain) with ofParameter := true }
    else d
  (d.openPart (.parameter name use countsEmpty)).inContext fun c =>
    { c with braces := c.braces + 1, doubleBraces := c.doubleBraces + if c.isDouble then 1 else 0 }

/-- A parameter in braces, behind the opening one. -/
def bracedParameter (d : Draft) : Parse Draft := do
  let c ← nextJoined
  match c with
  | none => return openParameter d [] .malformed false
  | some c =>
    if c = '}' then
      back (some c)
      return openParameter d [] .malformed false
    let (name, isLength, isKnown, c) ← bracedName c
    if !isKnown || isLength then
      back c
      let use : Use := if isLength && is c '}' then .length else .malformed
      return openParameter d (if isKnown then name else []) use false
    let (use, countsEmpty) ← use c
    if use = .value && !countsEmpty then return d.push (.parameter name .value false [])
    return openParameter d name use countsEmpty

/-- A command in parentheses, whose texts behind redirections end with it. -/
def parenthesized (command : Parse Command) (finish : Parse Unit) : Parse Command := do
  let awaited := (← get).awaited
  modify fun s => { s with awaited := [] }
  let c ← command
  finish
  modify fun s => { s with awaited, watch := .nothing }
  return c

/-- The script between two backquotes. Backslashes quote what means something there. -/
def backquoted (isDouble : Bool) : Parse Text := do
  let step (script : Text) : Parse (Text ⊕ Text) := do
    match ← nextJoined with
    | none => fail "EOF in backquote substitution"
    | some c =>
      if c = '`' then return .inr script.reverse
      else if c = '\\' then
        match ← next with
        | none => fail "EOF in backquote substitution"
        | some d =>
          if d = '\\' || d = '`' || d = '$' || (isDouble && d = '"') then return .inl (d :: script)
          else return .inl (d :: c :: script)
      else
        if c.val = 0x0A then linesPassed 1
        return .inl (c :: script)
  repeated step (← bound) []

/-- The command of a script of its own. -/
def separately (script : Text) (command : Parse Command) : Parse Command := do
  let s ← get
  set { s with rest := script, line := 1, isPushed := false, aliasesInUse := [] }
  let c ← command
  modify fun t => { t with
    rest := s.rest, line := s.line, isPushed := false, aliasesInUse := s.aliasesInUse }
  return c

/-- What stands behind a dollar sign. -/
def dollar (list : Parse Command) (finish : Parse Unit) (d : Draft) : Parse Draft := do
  let c ← nextJoined
  let marksOnly := (← get).watch.marks
  match c with
  | none => return d.octet '$'
  | some c =>
    if marksOnly || !(c = '(' || c = '{' || isNameStart c || isSpecial c) then
      back (some c)
      return d.octet '$'
    else if c = '(' then
      let c ← nextJoined
      if is c '(' then return (d.enter (.start .arithmetic true)).openPart .arithmetic
      back c
      return d.push (.command (← parenthesized list finish))
    else if c = '{' then bracedParameter d
    else
      let (name, _, _, c) ← parameterName false c false
      back c
      return d.push (.parameter name .value false [])

/-- At the start of a line: the end of the text if the line is its mark. -/
def lineStart (text : Option Awaited) (c : Option CodePoint) : Parse (Option CodePoint) := do
  match text with
  | none => return c
  | some a =>
    back c
    if a.dropsTabs then modify fun s => { s with rest := s.rest.dropWhile (· = CodePoint.ofChar '\t') }
    let s ← get
    let behind := s.rest.drop a.mark.length
    if a.mark.isPrefixOf s.rest && (behind = [] || behind.head?.any fun c => c.val = 0x0A) then
      set { s with rest := behind.tail, line := s.line + 1 }
      return none
    next

/-- Reads the octets of a word, or of a text behind a redirection, from the first one on; gives the octet
that ended it. -/
def octets (list : Parse Command) (finish : Parse Unit) (text : Option Awaited) (first : Option CodePoint)
    (draft : Draft) : Parse (Draft × Option CodePoint) := do
  let inText := text.isSome
  let following (d : Draft) : Parse (Option CodePoint) :=
    if d.context.quotation = .single then next else nextJoined
  let step : Draft × Option CodePoint → Parse ((Draft × Option CodePoint) ⊕ (Draft × Option CodePoint))
    | (d, none) => return .inr (d, none)
    | (d, some c) => do
      let q := d.context.quotation
      let on (d : Draft) : Parse ((Draft × Option CodePoint) ⊕ (Draft × Option CodePoint)) := do
        return .inl (d, ← following d)
      if c.val = 0x0A then
        if q = .plain && d.context.braces = 0 then return .inr (d, some c)
        linesPassed 1
        let d := d.octet c
        return .inl (d, ← lineStart text (← following d))
      else if q ≠ .single && c = '\\' then
        match ← next with
        | none => on (d.escaped c)
        | some e =>
          let isKept := d.context.isDouble && e ≠ '\\' && e ≠ '`' && e ≠ '$' &&
            (e ≠ '"' || (inText && d.context.braces = 0)) && (e ≠ '}' || d.context.braces = 0)
          on ((if isKept then d.escaped c else d).escaped e).quoting
      else if q = .plain && c = '\'' then
        on ((d.inContext fun x => { x with quotation := .single }).mark inText)
      else if q = .plain && c = '"' then
        on ((d.inContext fun x => { x with quotation := .double, isDouble := true }).doubleMark inText)
      else if (q = .single && c = '\'') || (q = .double && c = '"') then on (d.endMark inText c)
      else if q = .single then on (if isPatternSign q c then d.escaped c else d.octet c)
      else if c = '$' then on (← dollar list finish d)
      else if c = '}' then on (d.endBrace c)
      else if c = '`' then
        if (← get).watch.marks then on (d.octet c).quoting
        else
          let script ← backquoted d.context.isDouble
          on (d.push (.command (← separately script (parenthesized list (pure ())))))
      else if q = .arithmetic && c = '(' then
        on ((d.inContext fun x => { x with parentheses := x.parentheses + 1 }).octet c)
      else if q = .arithmetic && c = ')' then
        if d.context.parentheses ≠ 0 then
          on ((d.inContext fun x => { x with parentheses := x.parentheses - 1 }).octet c)
        else
          let e ← nextJoined
          if is e ')' then on d.leave.closePart
          else
            back e
            on (d.octet c)
      else if q = .plain && endsWord c && d.context.braces = 0 then return .inr (d, some c)
      else on (if isPatternSign q c then d.escaped c else d.octet c)
  let first ← lineStart text first
  let (d, ending) ← repeated step (← bound) (draft, first)
  if d.context.quotation = .arithmetic then fail "Missing '))'"
  else if d.context.quotation ≠ .plain && !inText then fail "Unterminated quoted string"
  else if d.context.braces ≠ 0 then fail "Missing '\x7d'"
  else return (d, ending)

end Parse

end LspEndpoint.Program.Shell
