import LspEndpoint.Program.Option
import LspEndpoint.Program.Shell.Pattern
import LspEndpoint.Program.Utility.Amount

/-!
Programs that pick and replace the octets of texts.
-/
namespace LspEndpoint.Program

/-! Sets of octets. -/

/-- A part of a set: octets in order, or one that is repeated, as often as is needed if no number says. -/
inductive Run
  | octets (cs : List CodePoint)
  | repeated (c : CodePoint) (n : Option Nat)

namespace Run

/-- The octets in order, a repeated one as often as is needed to reach a length. -/
def expand (length : Nat) (rs : List Run) : List CodePoint :=
  let fixed : Nat := rs.foldl (fun n r => match r with
    | octets cs => n + cs.length
    | repeated _ k => n + k.getD 0) 0
  rs.flatMap fun
    | octets cs => cs
    | repeated c k => List.replicate (k.getD (length - fixed)) c

def plain? (c : Char) (s : CodePoint × Bool) : Bool := !s.2 && s.1 = c

/-- The octets of a text with its escapes read, each with whether it was behind a backslash. -/
def signs (t : Text) : Shell.Glob.Signs := go 0 t
where
  go : (skip : Nat) → Text → Shell.Glob.Signs
    | _, [] => []
    | skip + 1, _ :: t => go skip t
    | 0, c :: t =>
      if c = '\\' then
        match Escape.read ⟨false, false, false, false⟩ t with
        | .octets ds taken => ds.map (·, true) ++ go taken t
        | _ =>
          match t with
          | d :: _ => (d, true) :: go 1 t
          | [] => [(c, true)]
      else (c, false) :: go 0 t

/-- What stands in brackets up to a closing pair of signs. -/
def named? (mark : Char) : Shell.Glob.Signs → Option Text
  | [] => none
  | s :: rest =>
    if plain? mark s && rest.head?.any (plain? ']') then some []
    else (named? mark rest).map (s.1 :: ·)

/-- The number behind a star, up to a closing bracket. -/
def times? (signs : Shell.Glob.Signs) : Option (Option Nat × Nat) :=
  let digits := (signs.takeWhile fun s => s.1.isDigit).map Prod.fst
  if (signs.drop digits.length).head?.any (plain? ']') then
    let n := if digits.head? = some (CodePoint.ofChar '0') then octalValue digits else decimalValue digits
    some (if n = 0 then none else some n, digits.length + 1)
  else none

/-- The runs behind `skip` signs that are read. -/
def ofSigns : (skip : Nat) → Shell.Glob.Signs → Except Text (List Run)
  | _, [] => .ok []
  | skip + 1, _ :: rest => ofSigns skip rest
  | 0, s :: rest =>
    let on (r : Run) (taken : Nat) : Except Text (List Run) := (ofSigns taken rest).map (r :: ·)
    let single : Except Text (List Run) :=
      match rest with
      | dash :: last :: _ =>
        if plain? '-' dash then
          if last.1.val < s.1.val then
            .error ("range-endpoints of '" ++ [s.1] ++ "-" ++ [last.1] ++
              "' are in reverse collating sequence order")
          else on (.octets ((List.range (last.1.val + 1 - s.1.val)).map fun n => CodePoint.ofNat (s.1.val + n))) 2
        else on (.octets [s.1]) 0
      | _ => on (.octets [s.1]) 0
    if plain? '[' s then
      match rest with
      | mark :: inner =>
        match if plain? ':' mark then named? ':' inner else none with
        | some name =>
          if Shell.Member.kinds.any fun k => Text.ofString k = name then
            on (.octets (((List.range 256).map CodePoint.ofNat).filter (Shell.Member.isOfKind name)))
              (name.length + 3)
          else if name = [] then .error "missing character class name '[::]'"
          else .error ("invalid character class " ++ quotedValue name)
        | none =>
          match if plain? '=' mark then named? '=' inner else none with
          | some [c] => on (.octets [c]) 4
          | some _ | none =>
            match if inner.head?.any (plain? '*') then times? inner.tail else none with
            | some (n, taken) => on (.repeated mark.1 n) (taken + 2)
            | none => single
      | [] => single
    else single

def read (t : Text) : Except Text (List Run) := ofSigns 0 (signs t)

end Run

/-- What takes the place of an octet. -/
def replaced (old new : List CodePoint) (c : CodePoint) : CodePoint :=
  match (old.zip new).reverse.find? fun p => p.1 = c with
  | some (_, d) => d
  | none => c

/-- The text with one of each run of a repeated octet of a set. -/
def squeezed (set : List CodePoint) (t : Text) : Text :=
  (t.foldl (fun (done : Text) c => if done.head? = some c && set.contains c then done else c :: done) []).reverse

/-! Positions. -/

/-- Positions from the first to the last, if there is one, counted from one. -/
structure Span where
  first : Nat
  last : Option Nat

namespace Span

def holds (n : Nat) (s : Span) : Bool := s.first ≤ n && s.last.all fun l => n ≤ l

/-- A span as it is given. -/
def read (isField : Bool) (t : Text) : Except Text Span := do
  let number (d : Text) : Except Text Nat := do
    if !d.all CodePoint.isDigit then
      throw ((if isField then Text.ofString "invalid field value " else "invalid byte/character position ") ++
        quotedValue d)
    let n := decimalValue d
    if n = 0 then
      throw ((if isField then Text.ofString "fields" else "byte/character positions") ++ " are numbered from 1")
    return n
  match Text.after? '-' t with
  | none => do
    let n ← number t
    return ⟨n, some n⟩
  | some last =>
    let first := Text.before '-' t
    if first = [] && last = [] then throw (Text.ofString "invalid range with no endpoint: -")
    let a ← if first = [] then pure 1 else number first
    let b ← if last = [] then pure none else (number last).map some
    if b.any (· < a) then throw (Text.ofString "invalid decreasing range")
    return ⟨a, b⟩

def readAll (isField : Bool) (t : Text) : Except Text (List Span) :=
  (Text.pieces ',' (t.map fun (c : CodePoint) => if c = ' ' || c.val = 9 then CodePoint.ofChar ',' else c)).mapM (read isField)

end Span

namespace Utility

/-- Replaces, takes out and squeezes octets. -/
def translate : Utility := fun c =>
  c.withOptions
    ⟨"cCdst".toList.map (·, .nothing),
      [("complement", 'c', .nothing), ("delete", 'd', .nothing), ("squeeze-repeats", 's', .nothing),
        ("truncate-set1", 't', .nothing)], true⟩
    fun g =>
      let deletes := g.has 'd'
      let squeezes := g.has 's'
      let refuseShort (why : String) : Ran :=
        c.complained ("missing operand after " ++ quotedValue (g.operands.headD []) ++ "\n" ++
          Text.ofString why ++ c.hint) 1
      let run (first : Text) (second : Option Text) : Ran :=
        let sets : Except Text (List CodePoint × List CodePoint) := do
          let listed := Run.expand 0 (← Run.read first)
          let set := if g.has 'c' || g.has 'C' then
              ((List.range 256).map CodePoint.ofNat).filter fun c => !listed.contains c
            else listed
          let other := Run.expand set.length (← Run.read (second.getD []))
          return (set, other)
        match sets with
        | .error message => c.complained message 1
        | .ok (set, other) =>
          let t := c.input.toOption.getD []
          if !deletes && second.isSome && other.isEmpty && !set.isEmpty && !g.has 't' then
            c.complained "when not truncating set1, string2 must be non-empty" 1
          else
            let filled := match g.has 't', other.getLast? with
              | false, some last => other ++ List.replicate (set.length - other.length) last
              | _, _ => other
            let shown :=
              if deletes then
                let kept := t.filter fun c => !set.contains c
                if squeezes then squeezed other kept else kept
              else
                match second with
                | none => squeezed set t
                | some _ =>
                  let changed := t.map (replaced set filled)
                  if squeezes then squeezed other changed else changed
            c.finished [] [⟨false, shown⟩]
      match g.operands with
      | [] => c.missingOperand
      | [one] =>
        if deletes && squeezes then
          refuseShort "Two strings must be given when both deleting and squeezing repeats."
        else if !deletes && !squeezes then refuseShort "Two strings must be given when translating."
        else run one none
      | [one, two] =>
        if deletes && !squeezes then
          c.complained ("extra operand " ++ quotedValue two ++ "\n" ++
            "Only one string may be given when deleting without squeezing repeats." ++ c.hint) 1
        else run one (some two)
      | _ :: _ :: extra :: _ => c.refused ("extra operand " ++ quotedValue extra) 1

/-- Picks octets or fields from lines. -/
def cut : Utility := fun c =>
  c.withOptions
    ⟨[('b', .value), ('c', .value), ('f', .value), ('d', .value), ('s', .nothing), ('n', .nothing),
        ('z', .nothing), ('C', .nothing), ('O', .value)],
      [("bytes", 'b', .value), ("characters", 'c', .value), ("fields", 'f', .value), ("delimiter", 'd', .value),
        ("only-delimited", 's', .nothing), ("complement", 'C', .nothing), ("output-delimiter", 'O', .value),
        ("zero-terminated", 'z', .nothing)], false⟩
    fun g =>
      let isList (o : Char × Option Text) : Bool := o.1 = 'b' || o.1 = 'c' || o.1 = 'f'
      match g.options.filter isList with
      | [] => c.refused "you must specify a list of bytes, characters, or fields" 1
      | [(kind, list)] =>
        let isField := kind = 'f'
        match Span.readAll isField (list.getD []), (g.value? 'd') with
        | .error message, _ => c.refused message 1
        | _, some (_ :: _ :: _) => c.refused "the delimiter must be a single character" 1
        | .ok spans, delimiter =>
          if delimiter.isSome && !isField then
            c.refused "an input delimiter may be specified only when operating on fields" 1
          else if g.has 's' && !isField then
            c.refused "suppressing non-delimited lines makes sense\n\tonly when operating on fields" 1
          else
            let separator := ((delimiter.getD "\t").head?).getD (CodePoint.ofNat 0)
            let isChosen (n : Nat) : Bool := (spans.any (Span.holds n)) != g.has 'C'
            let chosen {α : Type} (items : List α) : List α :=
              ((items.zipIdx 1).filter fun x => isChosen x.2).map Prod.fst
            let line (t : Text) : Text :=
              if isField then
                if t.contains separator then
                  Text.joined ((g.value? 'O').getD [separator]) (chosen (Text.pieces separator t)) ++ "\n"
                else if g.has 's' then []
                else t ++ "\n"
              else chosen t ++ "\n"
            c.finished g.operands ((c.sources g.operands).map fun (name, t) => match t with
              | .ok t => ⟨false, (bareLines t).flatMap line⟩
              | .error r => c.complaint (shownName true name ++ ": " ++ r.reason))
      | _ => c.refused "only one list may be specified" 1

end Utility

end LspEndpoint.Program
