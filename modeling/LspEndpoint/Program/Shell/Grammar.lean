import LspEndpoint.Program.Shell.Word

/-!
The grammar of scripts. Commands hold lists of commands, and words hold commands too, so the rules are
given for a way to read what stands one level further in, and the levels are tied together at the end.
-/
namespace LspEndpoint.Program.Shell

/-- How a list of commands ends: a whole line of a script, a list that holds at least one command, or a
list that may be empty. -/
inductive Extent
  | line
  | filled
  | any
deriving DecidableEq

/-- What is read one level further in. -/
inductive Inner
  | list (e : Extent)
  | command

abbrev Reading := Inner → Parse Command

namespace Parse

variable (inner : Reading)

def close : Parse Unit := do
  let s ← get
  if s.token ≠ .close then unexpected (some .close)

/-- The text of a word that stands for itself. -/
def plainText? : Word → Option Text
  | [] => some []
  | .octet c false :: rest => (plainText? rest).map (c :: ·)
  | _ => none

/-- The text of a word without its quotations; what would be replaced is left out. -/
def unquoted (w : Word) : Text := w.filterMap fun
  | .octet c _ => some c
  | _ => none

def remember (t : Token) : Parse Token := do
  modify fun s => { s with token := t }
  return t

/-- A redirection sign with the digit in front of it, if there is one. -/
def sign (digit : Option CodePoint) (isOutput : Bool) : Parse Unit := do
  let descriptor := (digit.map CodePoint.digitValue).getD (if isOutput then 1 else 0)
  let c ← nextJoined
  let path (direction : Direction) : Parse Unit :=
    modify fun s => { s with sign := .path descriptor direction }
  if isOutput then
    if is c '>' then path .append
    else if is c '|' then path .clobber
    else if is c '&' then path .copyOutput
    else
      back c
      path .output
  else if is c '<' then
    let d ← nextJoined
    if !is d '-' then back d
    modify fun s => { s with sign := .here descriptor (is d '-') }
  else if is c '&' then path .copyInput
  else if is c '>' then path .both
  else
    back c
    path .input

/-- Drops what stands between tokens, and counts the lines that go on. -/
def betweenTokens : (inComment : Bool) → Text → Text × Nat
  | _, [] => ([], 0)
  | true, c :: t => if c.val = 0x0A then (c :: t, 0) else betweenTokens true t
  | false, c :: t =>
    if isBlank c then betweenTokens false t
    else if c = '#' then betweenTokens true t
    else
      match t with
      | d :: t => if c = '\\' && d.val = 0x0A then
          let r := betweenTokens false t
          (r.1, r.2 + 1)
        else (c :: d :: t, 0)
      | [] => ([c], 0)

/-- A token as it stands in the script. `finish` reads the end of a command in parentheses. -/
def rawToken (finish : Parse Unit) : Parse Token := do
  if (← get).isPushed then
    modify fun s => { s with isPushed := false }
    return (← get).token
  modify fun s =>
    let r := betweenTokens false s.rest
    { s with rest := r.1, line := s.line + r.2 }
  let doubled (c : Char) (two one : Token) : Parse Token := do
    let d ← nextJoined
    if is d c then remember two
    else
      back d
      remember one
  match ← next with
  | none => remember .endOfFile
  | some c =>
    if c.val = 0x0A then
      linesPassed 1
      remember .newline
    else if c = '&' then doubled '&' .and .ampersand
    else if c = '|' then doubled '|' .or .bar
    else if c = ';' then doubled ';' .endCase .semicolon
    else if c = '(' then remember .open
    else if c = ')' then remember .close
    else
      let (d, ending) ← octets (inner (.list .any)) finish none (some c) (.start .plain false)
      let isSign := (is ending '>' || is ending '<') && !d.isQuoted
      let digit? := match d.parts with
        | [] => some none
        | [.octet c false] => if c.isDigit then some (some c) else none
        | _ => none
      match isSign, digit? with
      | true, some digit =>
        sign digit (is ending '>')
        remember .redirect
      | _, _ =>
        back ending
        modify fun s => { s with word := d.parts.reverse, isQuoted := d.isQuoted }
        remember .word

/-- Reads the texts that redirections wait for. -/
def texts (finish : Parse Unit) : Parse Unit := do
  let awaited := (← get).awaited
  modify fun s => { s with awaited := [] }
  awaited.forM fun a => do
    let watch := (← get).watch
    modify fun s => { s with watch := .nothing }
    let q : Quotation := if a.isLiteral then .single else .double
    let (d, _) ← octets (inner (.list .any)) finish (some a) (← next) (.start q (q = .double))
    modify fun s => { s with texts := (a.number, d.parts.reverse) :: s.texts, watch }

/-- Puts the value of an alias in place of its name. -/
def replaceAlias (name : Text) : Parse Bool := do
  let s ← get
  let inUse := s.aliasesInUse.filter fun a => a.2 < s.rest.length
  match s.aliases.lookup name with
  | none => return false
  | some value =>
    if inUse.any fun a => a.1 = name then return false
    set { s with rest := value ++ s.rest, aliasesInUse := (name, s.rest.length) :: inUse }
    return true

/-- The next token: line ends are passed over, keywords told from other words, and aliases replaced, as
far as they are watched for. -/
def tokenWith (finish : Parse Unit) : Parse Token := do
  let watch := (← get).watch
  let lines (w : Watch) : Parse (Watch ⊕ (Token × Watch)) := do
    let t ← rawToken inner finish
    if w.newlines && t = .newline then
      texts inner finish
      watching .nothing
      return .inl w
    return .inr (t, w)
  let step (w : Watch) : Parse (Watch ⊕ Token) := do
    let (t, w) ← repeated lines (← bound) w
    let w := w.union (← get).watch
    watching .nothing
    let s ← get
    if t ≠ .word || s.isQuoted then return .inr t
    match plainText? s.word with
    | none => return .inr t
    | some name =>
      match if w.keywords then Token.keywords.find? fun k => Text.ofString k = name else none with
      | some k => return .inr (← remember (.keyword k))
      | none =>
        if w.aliases then
          if ← replaceAlias name then return .inl w
        return .inr t
  repeated step (← bound) watch

/-- The parenthesis that ends a command in a word. No command in a word starts in front of it. -/
def finish : Parse Unit := do
  let t ← tokenWith (fun _ => fail []) (pure ())
  if t ≠ .close then unexpected (some .close)

def token : Parse Token := tokenWith inner finish

def expect (t : Token) : Parse Unit := do
  if (← token inner) ≠ t then unexpected (some t)

/-- Whether a word sets a variable: a name stands in front of an equals sign. -/
def isAssignment (w : Word) : Bool :=
  let name := w.takeWhile fun
    | .octet c false => isNamePart c
    | _ => false
  match plainText? name, w.drop name.length with
  | some t, .octet c false :: _ => isName t && c = '='
  | _, _ => false

/-- What a redirection sign leads to. -/
def target : Parse Redirect := do
  let sign := (← get).sign
  match sign with
  | .path descriptor direction =>
    if (← token inner) ≠ .word then unexpected none
    return .path descriptor direction (← get).word
  | .here descriptor dropsTabs =>
    watching { Watch.nothing with marks := true }
    if (← token inner) ≠ .word then unexpected none
    let s ← get
    let awaited : Awaited := ⟨s.nextText, unquoted s.word, dropsTabs, s.isQuoted⟩
    set { s with nextText := s.nextText + 1, awaited := s.awaited ++ [awaited] }
    return .here descriptor s.nextText

/-- The names that cannot be given to a function, since a shell acts on them itself first. -/
def specialNames : List String :=
  [".", ":", "break", "continue", "eval", "exec", "exit", "export", "local", "readonly", "return", "set",
    "shift", "times", "trap", "unset"]

/-- The parts of a command without keywords, backwards. -/
structure Simple where
  assignments : List Word
  words : List Word
  redirects : List Redirect

/-- A command without keywords: assignments, words and redirections; or a function. -/
def simple : Parse Command := do
  let line := (← get).line
  let step (x : Simple) : Parse (Simple ⊕ Command) := do
    let atStart := x.words.isEmpty
    watching { Watch.nothing with aliases := atStart }
    match ← token inner with
    | .word =>
      let w := (← get).word
      if atStart && isAssignment w then return .inl { x with assignments := w :: x.assignments }
      return .inl { x with words := w :: x.words }
    | .redirect => return .inl { x with redirects := (← target inner) :: x.redirects }
    | t =>
      match t, x with
      | .open, ⟨[], [w], []⟩ =>
        expect inner .close
        let name := (plainText? w).getD []
        if !isName name || specialNames.any fun k => Text.ofString k = name then
          fail "Bad function name"
        watching .lines
        let line := (← get).line
        return .inr (.definition line name (← inner .command))
      | _, _ =>
        pushBack
        return .inr (.simple line x.assignments.reverse x.words.reverse x.redirects.reverse)
  repeated step (← bound) ⟨[], [], []⟩

/-- The words up to the end of a line. -/
def wordsOfLine : Parse (List Word) := do
  let step (words : List Word) : Parse (List Word ⊕ List Word) := do
    match ← token inner with
    | .word => return .inl ((← get).word :: words)
    | .newline | .semicolon => return .inr words.reverse
    | _ => unexpected none
  repeated step (← bound) []

/-- All arguments, each as it is. -/
def allArguments : Word := [.quote, .parameter "@" .value false [], .quote]

/-- A command for each of some words, behind its keyword. -/
def each (line : Nat) : Parse Command := do
  let t ← token inner
  let s ← get
  let name := (plainText? s.word).getD []
  if t ≠ .word || s.isQuoted || !isName name then fail "Bad for loop variable"
  watching .lines
  let t ← token inner
  let words ←
    if t = .keyword "in" then wordsOfLine inner
    else
      if t ≠ .semicolon then pushBack
      pure [allArguments]
  watching .lines
  expect inner (.keyword "do")
  return .each line name words (← inner (.list .filled))

/-- The patterns of a case, whose first has been read as a token. -/
def patterns : Parse (List Word) := do
  let step (ps : List Word) : Parse (List Word ⊕ List Word) := do
    let ps := (← get).word :: ps
    if (← token inner) ≠ .bar then return .inr ps.reverse
    discard (token inner)
    return .inl ps
  repeated step (← bound) []

/-- A choice between cases, behind its keyword. -/
def choice (line : Nat) : Parse Command := do
  if (← token inner) ≠ .word then unexpected (some .word)
  let word := (← get).word
  watching .lines
  expect inner (.keyword "in")
  let watch : Watch := { Watch.lines with aliases := false }
  let step (cases : List (List Word × Command)) :
      Parse (List (List Word × Command) ⊕ List (List Word × Command)) := do
    if ← isAt (.keyword "esac") then return .inr cases.reverse
    if ← isAt .open then discard (token inner)
    let ps ← patterns inner
    if !(← isAt .close) then unexpected (some .close)
    let body ← inner (.list .any)
    let cases := (ps, body) :: cases
    watching watch
    match ← token inner with
    | .keyword "esac" => return .inr cases.reverse
    | .endCase =>
      watching watch
      discard (token inner)
      return .inl cases
    | _ => unexpected (some .endCase)
  watching watch
  discard (token inner)
  return .choice line word (← repeated step (← bound) [])

/-- The branches of a condition, behind the keyword in front of its test. -/
def branches : (bound : Nat) → Parse Command
  | 0 => fail "out of space"
  | bound + 1 => do
    let test ← inner (.list .filled)
    expect inner (.keyword "then")
    let yes ← inner (.list .filled)
    match ← token inner with
    | .keyword "elif" => return .branch test yes (← branches bound)
    | .keyword "else" => return .branch test yes (← inner (.list .filled))
    | _ =>
      pushBack
      return .branch test yes .nothing

/-- The redirections behind a command. -/
def redirects : Parse (List Redirect) := do
  watching .commands
  let step (rs : List Redirect) : Parse (List Redirect ⊕ List Redirect) := do
    match ← token inner with
    | .redirect => return .inl ((← target inner) :: rs)
    | _ =>
      pushBack
      return .inr rs.reverse
  repeated step (← bound) []

/-- A command with its redirections. -/
def withRedirects (line : Nat) (c : Command) : Parse Command := do
  match ← redirects inner, c with
  | [], c => return c
  | rs, .subshell line c _ => return .subshell line c rs
  | rs, c => return .redirected line c rs

def command : Parse Command := do
  let line := (← get).line
  match ← token inner with
  | .keyword "if" =>
    let c ← branches inner (← bound)
    expect inner (.keyword "fi")
    withRedirects inner line c
  | .keyword "while" => loop line false
  | .keyword "until" => loop line true
  | .keyword "for" =>
    let c ← each inner line
    expect inner (.keyword "done")
    withRedirects inner line c
  | .keyword "case" => withRedirects inner line (← choice inner line)
  | .open =>
    let c ← inner (.list .filled)
    expect inner .close
    withRedirects inner line (.subshell line c [])
  | .keyword "\x7b" =>
    let c ← inner (.list .filled)
    expect inner (.keyword "\x7d")
    withRedirects inner line c
  | .word | .redirect =>
    pushBack
    simple inner
  | _ => unexpected none
where
  loop (line : Nat) (isUntil : Bool) : Parse Command := do
    let test ← inner (.list .filled)
    expect inner (.keyword "do")
    let body ← inner (.list .filled)
    expect inner (.keyword "done")
    withRedirects inner line (.loop isUntil test body)

/-- Commands with a bar between each two, and what turns their outcome around. -/
def pipeline : Parse Command := do
  let isNegated := (← token inner) = .keyword "!"
  if isNegated then watching .commands else pushBack
  let first ← command inner
  let step (cs : List Command) : Parse (List Command ⊕ List Command) := do
    if (← token inner) ≠ .bar then
      pushBack
      return .inr cs.reverse
    watching .lines
    return .inl ((← command inner) :: cs)
  let c := match ← repeated step (← bound) [first] with
    | [c] => c
    | cs => .pipeline false cs
  return if isNegated then .negated c else c

/-- Pipelines of which each is run or left out by the outcome of the one before. -/
def chain : Parse Command := do
  let step (c : Command) : Parse (Command ⊕ Command) := do
    match ← token inner with
    | .and =>
      watching .lines
      return .inl (.both c (← pipeline inner))
    | .or =>
      watching .lines
      return .inl (.either c (← pipeline inner))
    | _ =>
      pushBack
      return .inr c
  repeated step (← bound) (← pipeline inner)

def inBackground : Command → Command
  | .pipeline _ cs => .pipeline true cs
  | c => .background c

/-- Reads a list on from the commands that it has so far. -/
def list (e : Extent) : Parse Command := do
  let step : Option Command → Parse (Option Command ⊕ Command) := fun before => do
    let soFar := before.getD .nothing
    watching (if e = .line then .commands else .lines)
    let t ← token inner
    if t = .newline then
      texts inner finish
      return .inr soFar
    if t = .endOfFile then
      texts inner finish
      pushBack
      modify fun s => { s with isDone := before.isNone && e = .line }
      return .inr soFar
    pushBack
    if (e = .any || (before.isSome && e = .filled)) && t.endsList then return .inr soFar
    let c ← chain inner
    let t ← token inner
    let c := if t = .ampersand then inBackground c else c
    let all := match before with
      | none => c
      | some b => .sequence b c
    if t = .ampersand || t = .semicolon then return .inl (some all)
    pushBack
    if t = .newline || t = .endOfFile then return .inl (some all)
    if e = .line then unexpected none
    return .inr all
  repeated step (← bound) none

end Parse

/-- The rules with levels below them. -/
def reading : (levels : Nat) → Reading
  | 0, _ => Parse.fail "out of space"
  | levels + 1, .list e => Parse.list (reading levels) e
  | levels + 1, .command => Parse.command (reading levels)

/-- The deepest nesting of commands. -/
def deepest : Nat := 10000

/-- The commands of the next lines that belong together; nothing when the script is at its end. -/
def nextCommand (s : Source) : Except Complaint (Option Command × Source) := do
  let s := { s with isPushed := false, watch := .nothing, awaited := [] }
  let (c, s) ← (reading deepest (.list .line)).run s
  return (if s.isDone then none else some c, s)

end LspEndpoint.Program.Shell
