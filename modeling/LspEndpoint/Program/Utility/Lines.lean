import LspEndpoint.Program.Option
import LspEndpoint.Program.Utility.Amount

/-!
Programs that pick, count and order the lines of texts.
-/
namespace LspEndpoint.Program

/-- A part of a text that is kept: lines or octets, so many of them at an end of the text, or all but so
many at the other end. -/
structure Part where
  inLines : Bool
  atEnd : Bool
  allBut : Bool
  amount : Nat

namespace Part

def isNothing (p : Part) : Bool := !p.allBut && p.amount = 0

def of {α : Type} (p : Part) (items : List α) : List α :=
  let n := if p.allBut then items.length - p.amount else p.amount
  if p.atEnd then items.drop (items.length - n) else items.take n

def text (p : Part) (t : Text) : Text := if p.inLines then (p.of (linesOf t)).flatten else p.of t

end Part

/-- The part that an argument asks for. A sign in front that is not the usual one asks for all but so
many. -/
def part? (atEnd inLines : Bool) (t : Text) : Option Part :=
  let unusual : Char := if atEnd then '+' else '-'
  match t with
  | [] => none
  | c :: rest =>
    let isSigned := c = '+' || c = '-'
    (amount? (if isSigned then rest else c :: rest)).map fun n =>
      if c = unusual then ⟨inLines, atEnd, true, if atEnd then n - 1 else n⟩
      else ⟨inLines, atEnd, false, n⟩

/-- An option of digits in front of the other arguments, as an option for lines or octets. -/
def withOldNumber : List Text → List Text
  | [] => []
  | a :: rest =>
    match a with
    | [] => a :: rest
    | dash :: more =>
      let digits := more.takeWhile CodePoint.isDigit
      let letters := more.drop digits.length
      if dash = '-' && digits ≠ [] && letters.all fun l => (Text.ofString "clqvz").contains l then
        let unit : Text := if letters.contains (CodePoint.ofChar 'c') then "-c" else "-n"
        let others := letters.filter fun (l : CodePoint) => l = 'q' || l = 'v' || l = 'z'
        (unit ++ digits) :: others.map (fun l => ['-', l]) ++ rest
      else a :: rest

/-- A signed number in front of at most one name, as options for lines or octets at the end: digits, the
unit (blocks of 512 octets, octets or lines) and whether to wait for more. -/
def withOldEnd (args : List Text) : List Text :=
  match args with
  | (sign :: more) :: names =>
    let isAlone := match names with
      | [] => true
      | [name] => name.head? ≠ some (CodePoint.ofChar '-') || name = "-" || name = "--"
      | [dashes, _] => dashes = "--"
      | _ => false
    let digits := more.takeWhile CodePoint.isDigit
    let rest := more.drop digits.length
    let inBlocks := rest.head? = some (CodePoint.ofChar 'b')
    let inOctets := inBlocks || rest.head? = some (CodePoint.ofChar 'c')
    let rest := if inOctets || rest.head? = some (CodePoint.ofChar 'l') then rest.tail else rest
    let lead : Text := if sign = '+' then "+" else []
    if isAlone && (sign = '+' || sign = '-' && more ≠ [] && more ≠ "c") && (rest = [] || rest = "f") then
      let unit : Text := if inOctets then "-c" else "-n"
      let amount : Text := if digits = [] then "10" else digits
      let suffix : Text := if inBlocks then "b" else []
      (unit ++ lead ++ amount ++ suffix) :: (if rest = [] then [] else [Text.ofString "-f"]) ++ names
    else args
  | _ => args

/-- Words, as they are counted. -/
def wordCount (t : Text) : Nat :=
  let (n, _) := t.foldl
    (fun ((n, inWord) : Nat × Bool) c =>
      if c.val = 32 || (9 ≤ c.val && c.val ≤ 13) then (n, false)
      else if 32 < c.val && c.val < 127 then (if inWord then n else n + 1, true)
      else (n, inWord))
    (0, false)
  n

/-- The width of the widest line. -/
def widest (t : Text) : Nat :=
  let (most, current) := t.foldl
    (fun ((most, current) : Nat × Nat) c =>
      if c.val = 10 || c.val = 12 || c.val = 13 then (max most current, 0)
      else if c.val = 9 then (most, current + (8 - current % 8))
      else if 32 ≤ c.val && c.val < 127 then (most, current + 1)
      else (most, current))
    (0, 0)
  max most current

/-- The octets that are compared when lines are ordered. -/
structure Order where
  byNumber : Bool
  ignoresCase : Bool
  ignoresBlanks : Bool
  isReversed : Bool
  isStable : Bool

namespace Order

def isBlank (c : CodePoint) : Bool := c = ' ' || c.val = 9

/-- The sign of a decimal number in front of a text, its whole digits and those behind a point, without
zeros that make no difference. -/
def number (t : Text) : Bool × Text × Text :=
  let t := t.dropWhile isBlank
  let negative := t.head? = some (CodePoint.ofChar '-')
  let t := if negative then t.tail else t
  let whole := t.takeWhile CodePoint.isDigit
  let rest := t.drop whole.length
  let fraction := if rest.head? = some (CodePoint.ofChar '.') then rest.tail.takeWhile CodePoint.isDigit else []
  let isZero (c : CodePoint) : Bool := c = '0'
  let whole := whole.dropWhile isZero
  let fraction := (fraction.reverse.dropWhile isZero).reverse
  (negative && !(whole.isEmpty && fraction.isEmpty), whole, fraction)

def compareTexts (a b : Text) : Ordering := if a = b then .eq else if Text.le a b then .lt else .gt

def compareNumbers (a b : Text) : Ordering :=
  let (m, x, u) := number a
  let (n, y, v) := number b
  let size := (compare x.length y.length).then ((compareTexts x y).then (compareTexts u v))
  match m, n with
  | false, false => size
  | true, true => size.swap
  | true, false => .lt
  | false, true => .gt

def upper (c : CodePoint) : CodePoint :=
  if 0x61 ≤ c.val && c.val ≤ 0x7A then CodePoint.ofNat (c.val - 32) else c

def compareKeys (o : Order) (a b : Text) : Ordering :=
  let key (t : Text) : Text :=
    let t := if o.ignoresBlanks then t.dropWhile isBlank else t
    if o.ignoresCase then t.map upper else t
  if o.byNumber then compareNumbers a b else compareTexts (key a) (key b)

def compareLines (o : Order) (a b : Text) : Ordering :=
  let byKey := o.compareKeys a b
  let whole := if o.isStable then byKey else byKey.then (compareTexts a b)
  if o.isReversed then whole.swap else whole

end Order

/-- The lines with the number of times that each stands there in a row. -/
def runs (same : Text → Text → Bool) (lines : List Text) : List (Text × Nat) :=
  (lines.foldl (fun (done : List (Text × Nat)) line =>
    match done with
    | (first, n) :: rest => if same first line then (first, n + 1) :: rest else (line, 1) :: done
    | [] => [(line, 1)]) []).reverse

namespace Utility

def readingOptions : List (Char × Taking) :=
  [('c', .value), ('n', .value), ('q', .nothing), ('v', .nothing), ('z', .nothing)]

def readingNames : List (String × Char × Taking) :=
  [("bytes", 'c', .value), ("lines", 'n', .value), ("quiet", 'q', .nothing), ("silent", 'q', .nothing),
    ("verbose", 'v', .nothing), ("zero-terminated", 'z', .nothing)]

/-- A part of each text, under its name if wanted. A directory is no text: where octets at the end are
wanted nothing more is shown, and it does not matter where nothing is wanted. -/
def partChunks (c : Call) (part : Part) (isNamed : Bool) :
    (isFirst : Bool) → List (Text × Except File.Refusal Text) → List Chunk
  | _, [] => []
  | isFirst, (name, t) :: rest =>
    let shown : Text := if name = "-" then "standard input" else name
    let lead : Text := if isFirst then "==> " else "\n==> "
    let header : Chunk := ⟨false, if isNamed then lead ++ shown ++ " <==\n" else []⟩
    match t with
    | .ok t => header :: ⟨false, part.text t⟩ :: partChunks c part isNamed false rest
    | .error .isDirectory =>
      if part.isNothing then header :: partChunks c part isNamed false rest
      else
        header ::
          c.complaint ("error reading " ++ quotedName name ++ ": " ++ File.Refusal.isDirectory.reason) ::
          (if part.atEnd && !part.inLines then [] else partChunks c part isNamed false rest)
    | .error r =>
      c.complaint ("cannot open " ++ quotedName name ++ " for reading: " ++ r.reason) ::
        partChunks c part isNamed isFirst rest

/-- Shows a part of each text, under its name if there are several. -/
def showParts (atEnd : Bool) : Utility := fun c =>
  c.withOptions ⟨if atEnd then ('f', .nothing) :: readingOptions else readingOptions, readingNames, false⟩
    fun g =>
      let wish := g.options.reverse.find? fun o => o.1 = 'c' || o.1 = 'n'
      let part : Except Text Part := match wish with
        | none => .ok ⟨true, atEnd, false, 10⟩
        | some (l, value) =>
          let value := value.getD []
          match part? atEnd (l = 'n') value with
          | some p => .ok p
          | none =>
            let unit : Text := if l = 'n' then "lines" else "bytes"
            let unsigned := if value.head? = some (CodePoint.ofChar '-') then value.tail else value
            .error ("invalid number of " ++ unit ++ ": " ++ quotedValue unsigned)
      match part with
      | .error message => c.complained message 1
      | .ok part =>
        let isNamed := (1 < g.operands.length || g.has 'v') && !g.has 'q'
        if atEnd && part.isNothing && !g.has 'f' then c.quiet 0
        else
          let r := c.finished g.operands (partChunks c part isNamed true (c.sources g.operands))
          { r with isEndless := atEnd && g.has 'f' }

def head : Utility := fun c => showParts false { c with args := withOldNumber c.args }

def tail : Utility := fun c =>
  let c := { c with args := withOldEnd c.args }
  match c.args with
  | (dash :: digit :: _) :: _ =>
    if dash = '-' && digit.isDigit then
      c.complained ("option used in invalid context -- " ++ [digit]) 1
    else showParts true c
  | _ => showParts true c

/-- Lines in the opposite order; what could not be read is reported first. -/
def reverseLines : Utility := fun c =>
  c.withOptions ⟨[], [], false⟩ fun g =>
    let chunks := (c.sources g.operands).map fun (name, t) =>
      match t with
      | .ok t => ⟨false, (linesOf t).reverse.flatten⟩
      | .error r =>
        if r = .isDirectory then c.complaint (name ++ ": read error: Invalid argument")
        else c.complaint ("failed to open " ++ quotedName name ++ " for reading: " ++ r.reason)
    c.finished g.operands (chunks.filter Chunk.isError ++ chunks.filter fun x => !x.isError)

/-- Counts lines, words and octets. -/
def wordCounts : Utility := fun c =>
  c.withOptions
    ⟨"cmlLw".toList.map (·, .nothing),
      [("bytes", 'c', .nothing), ("chars", 'm', .nothing), ("lines", 'l', .nothing), ("words", 'w', .nothing),
        ("max-line-length", 'L', .nothing)], false⟩
    fun g =>
      let isPlain := g.options.isEmpty
      let counts (t : Text) : List Nat :=
        (if isPlain || g.has 'l' then [t.count (CodePoint.ofNat 10)] else []) ++
        (if isPlain || g.has 'w' then [wordCount t] else []) ++
        (if g.has 'm' then [t.length] else []) ++
        (if isPlain || g.has 'c' then [t.length] else []) ++
        (if g.has 'L' then [widest t] else [])
      let sources := c.sources g.operands
      let isFile (name : Text) : Bool :=
        let entry := if name = "-" then c.inputPlace.bind c.files.get? else (c.files.find name).toOption
        match entry with
        | some (.file _) | some (.program _) => true
        | _ => false
      let isThere (s : Text × Except File.Refusal Text) : Bool := match s.2 with
        | .error r => r = .isDirectory
        | .ok _ => true
      let sized := sources.filter isThere
      let total : Nat := (sized.filter fun s => isFile s.1).foldl
        (fun n s => n + ((c.read s.1).toOption.getD []).length) 0
      let width :=
        if sources.length = 1 && (counts []).length = 1 then 1
        else max (if sized.any (fun s => !isFile s.1) then 7 else 1) (Text.ofNat total).length
      let line (numbers : List Nat) (name : Text) : Chunk :=
        let columns := Text.joined " " (numbers.map fun n => aligned width (Text.ofNat n))
        let name : Text := if name = [] then [] else " " ++ name
        ⟨false, columns ++ name ++ "\n"⟩
      let rows := sources.map fun (name, t) => match t with
        | .ok t => (some (counts t), [line (counts t) (if g.operands.isEmpty then [] else name)])
        | .error r =>
          let complaint := c.complaint (shownName true name ++ ": " ++ r.reason)
          if r = .isDirectory then (some (counts []), [complaint, line (counts []) name])
          else (none, [complaint])
      let sums := (rows.filterMap Prod.fst).foldl (List.zipWith (· + ·)) (counts [])
      let sums := if g.has 'L' then
          sums.dropLast ++ [(rows.filterMap fun r => r.1.bind List.getLast?).foldl max 0] else sums
      let last := if 1 < sources.length then [line sums "total"] else []
      c.finished g.operands (rows.flatMap Prod.snd ++ last)

/-- Puts lines into order. -/
def sort : Utility := fun c =>
  c.withOptions
    ⟨[('r', .nothing), ('n', .nothing), ('u', .nothing), ('f', .nothing), ('b', .nothing), ('s', .nothing),
        ('c', .nothing), ('o', .value)],
      [("reverse", 'r', .nothing), ("numeric-sort", 'n', .nothing), ("unique", 'u', .nothing),
        ("ignore-case", 'f', .nothing), ("ignore-leading-blanks", 'b', .nothing), ("stable", 's', .nothing),
        ("check", 'c', .nothing), ("output", 'o', .value)], false⟩
    fun g =>
      let sources := c.sources g.operands
      let failure? (ofDirectories : Bool) : Option Text := sources.findSome? fun (name, t) => match t with
        | .error r =>
          let verb : Text := if ofDirectories then "read failed: " else "cannot read: "
          if (r = .isDirectory) = ofDirectories then some (verb ++ shownName true name ++ ": " ++ r.reason)
          else none
        | .ok _ => none
      match (failure? false).orElse fun _ => failure? true with
      | some message => c.complained message 2
      | none =>
        let order : Order := ⟨g.has 'n', g.has 'f', g.has 'b', g.has 'r', g.has 's' || g.has 'u'⟩
        let lines := sources.flatMap fun s => bareLines (s.2.toOption.getD [])
        let same (a b : Text) : Bool := order.compareKeys a b = .eq
        let sorted := lines.mergeSort fun a b => order.compareLines a b ≠ .gt
        let kept := if g.has 'u' then (runs same sorted).map Prod.fst else sorted
        let t : Text := kept.flatMap fun (line : Text) => (line ++ "\n" : Text)
        match g.value? 'o' with
        | none =>
          if g.has 'c' then
            match ((lines.zip lines.tail).zipIdx 2).find? fun ((a, b), _) =>
                order.compareLines a b = .gt || (g.has 'u' && same a b) with
            | some ((_, line), n) =>
              let name := g.operands.headD "-"
              { c.finished g.operands [c.complaint (name ++ ":" ++ Text.ofNat n ++ ": disorder: " ++ line)]
                with status := 1 }
            | none => c.finished g.operands []
          else c.finished g.operands [⟨false, t⟩]
        | some path =>
          match c.files.create path true with
          | .error r => c.complained ("open failed: " ++ shownName true path ++ ": " ++ r.reason) 2
          | .ok (files, place) =>
            { c.finished g.operands [] with files := (files.write place (some 0) t).toOption.getD files }

/-- Leaves out lines that repeat the one before. -/
def unique : Utility := fun c =>
  c.withOptions
    ⟨"cdui".toList.map (·, .nothing),
      [("count", 'c', .nothing), ("repeated", 'd', .nothing), ("unique", 'u', .nothing),
        ("ignore-case", 'i', .nothing)], false⟩
    fun g =>
      match g.operands with
      | _ :: _ :: extra :: _ => c.refused ("extra operand " ++ quotedValue extra) 1
      | names =>
        let input := names.headD "-"
        match c.read input with
        | .error r =>
          if r = .isDirectory then c.complained ("error reading " ++ quotedName input) 1
          else c.complained (shownName true input ++ ": " ++ r.reason) 1
        | .ok t =>
          let same (a b : Text) : Bool :=
            if g.has 'i' then a.map Order.upper = b.map Order.upper else a = b
          let kept := (runs same (bareLines t)).filter fun (_, n) =>
            (!g.has 'd' || 1 < n) && (!g.has 'u' || n = 1)
          let shown : Text := kept.flatMap fun (line, n) =>
            let count : Text := if g.has 'c' then aligned 7 (Text.ofNat n) ++ " " else []
            (count ++ line ++ "\n" : Text)
          match names with
          | [_, output] =>
            match c.files.create output true with
            | .error r => c.complained (shownName true output ++ ": " ++ r.reason) 1
            | .ok (files, place) =>
              { c.finished names [] with files := (files.write place (some 0) shown).toOption.getD files }
          | _ => c.finished names [⟨false, shown⟩]

/-- Writes the input to files and shows it as well. -/
def tee : Utility := fun c =>
  c.withOptions
    ⟨"aip".toList.map (·, .nothing), [("append", 'a', .nothing), ("ignore-interrupts", 'i', .nothing)], false⟩
    fun g =>
      let t := c.input.toOption.getD []
      let write (files : File.System) (name : Text) : File.System × List Chunk :=
        match files.create name (!g.has 'a') with
        | .error r => (files, [c.complaint (shownName true name ++ ": " ++ r.reason)])
        | .ok (files, place) =>
          match files.write place (if g.has 'a' then none else some 0) t with
          | .ok files => (files, [])
          | .error r => (files, [c.complaint (shownName true name ++ ": " ++ r.reason)])
      let (files, complaints) := g.operands.foldl
        (fun (files, complaints) name =>
          let (files, more) := write files name
          (files, complaints ++ more))
        (c.files, [])
      { c.finished [] (complaints ++ [⟨false, t⟩]) with files }

end Utility

end LspEndpoint.Program
