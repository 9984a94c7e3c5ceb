import LspEndpoint.Text.Pieces

/-!
What the files that a shell makes may be used for at most, and how much its programs may use of what a
system has.
-/
namespace LspEndpoint.Program.Shell

/-- What a file may be used for. -/
structure Rights where
  reads : Bool
  writes : Bool
  executes : Bool
deriving DecidableEq

namespace Rights

def none : Rights := ⟨false, false, false⟩

/-- The rights for which a test of both holds. -/
def zip (f : Bool → Bool → Bool) (a b : Rights) : Rights :=
  ⟨f a.reads b.reads, f a.writes b.writes, f a.executes b.executes⟩

def joined (a b : Rights) : Rights := zip (· || ·) a b

def without (a b : Rights) : Rights := zip (fun x y => x && !y) a b

def opposite (r : Rights) : Rights := ⟨!r.reads, !r.writes, !r.executes⟩

theorem joined_none (r : Rights) : r.joined none = r := by simp [joined, zip, none]

theorem opposite_opposite (r : Rights) : r.opposite.opposite = r := by simp [opposite]

/-- An octal digit for rights. -/
def digit (r : Rights) : Nat :=
  (if r.reads then 4 else 0) + (if r.writes then 2 else 0) + (if r.executes then 1 else 0)

def ofDigit (n : Nat) : Rights := ⟨n / 4 % 2 = 1, n / 2 % 2 = 1, n % 2 = 1⟩

theorem ofDigit_digit (r : Rights) : ofDigit r.digit = r := by
  obtain ⟨a, b, c⟩ := r
  cases a <;> cases b <;> cases c <;> rfl

def letters (r : Rights) : Text :=
  Text.ofString ((if r.reads then "r" else "") ++ (if r.writes then "w" else "") ++ (if r.executes then "x" else ""))

end Rights

/-- The rights of the owner of a file, of its group, and of all others. -/
structure Permissions where
  owner : Rights
  group : Rights
  others : Rights
deriving DecidableEq

namespace Permissions

def map (f : Rights → Rights) (m : Permissions) : Permissions := ⟨f m.owner, f m.group, f m.others⟩

/-- The rights that are withheld, in octal digits. -/
def withheld (m : Permissions) : Text :=
  Text.ofNat 0 ++ [m.owner, m.group, m.others].flatMap fun r => Text.ofNat r.opposite.digit

/-- The rights that are given, in letters. -/
def given (m : Permissions) : Text :=
  "u=" ++ m.owner.letters ++ ",g=" ++ m.group.letters ++ ",o=" ++ m.others.letters

/-- The permissions that octal digits withhold the rest of. Only the last three count. -/
def ofWithheld? (t : Text) : Option Permissions :=
  if t.all fun c => 0x30 ≤ c.val && c.val ≤ 0x37 then
    match (t.reverse.map CodePoint.digitValue) ++ [0, 0] with
    | o :: g :: u :: _ => some (map Rights.opposite ⟨Rights.ofDigit u, Rights.ofDigit g, Rights.ofDigit o⟩)
    | _ => none
  else none

/-- Those whose rights are changed, as flags. -/
structure Holders where
  owner : Bool
  group : Bool
  others : Bool

def Holders.everyone : Holders := ⟨true, true, true⟩

def Holders.ofLetters (t : Text) : Holders :=
  let has (c : Char) : Bool := t.contains (CodePoint.ofChar 'a') || t.contains (CodePoint.ofChar c)
  ⟨has 'u', has 'g', has 'o'⟩

/-- The rights that letters stand for: those of someone, execution if anyone has it, or rights themselves. -/
def rightsOf (m : Permissions) (t : Text) : Rights :=
  t.foldl (fun (r : Rights) (c : CodePoint) => r.joined (
    if c = 'r' then ⟨true, false, false⟩
    else if c = 'w' then ⟨false, true, false⟩
    else if c = 'x' then ⟨false, false, true⟩
    else if c = 'u' then m.owner
    else if c = 'g' then m.group
    else if c = 'o' then m.others
    else if c = 'X' then ⟨false, false, m.owner.executes || m.group.executes || m.others.executes⟩
    else Rights.none)) Rights.none

/-- The permissions with the rights of some changed. -/
def changedFor (m : Permissions) (h : Holders) (f : Rights → Rights) : Permissions :=
  ⟨if h.owner then f m.owner else m.owner, if h.group then f m.group else m.group,
    if h.others then f m.others else m.others⟩

theorem changedFor_everyone (m : Permissions) (f : Rights → Rights) :
    m.changedFor Holders.everyone f = m.map f := rfl

/-- The permissions that is asked for in letters: who, a sign, and rights, again and again; a comma starts with
another who. -/
def requested? (before : Permissions) : (bound : Nat) → Holders → Permissions → Text → Option Permissions
  | 0, _, m, t => if t = [] then some m else none
  | bound + 1, h, m, t =>
    let who := t.takeWhile fun c => (Text.ofString "augo").contains c
    let h := if who = [] then h else Holders.ofLetters who
    match t.drop who.length with
    | [] => some m
    | sign :: rest =>
      let letters := rest.takeWhile fun c => (Text.ofString "rwxugoXs").contains c
      let r := rightsOf before letters
      let m :=
        if sign = '-' then m.changedFor h fun x => x.without r
        else if sign = '+' then m.changedFor h fun x => x.joined r
        else m.changedFor h fun _ => r
      if sign ≠ '-' && sign ≠ '+' && sign ≠ '=' then none
      else
        match rest.drop letters.length with
        | [] => some m
        | c :: more =>
          if c = ',' then requested? before bound Holders.everyone m more
          else if c = '-' || c = '+' || c = '=' then requested? before bound h m (c :: more)
          else none

/-- The permissions that a text in letters asks for instead of this one. -/
def changed? (m : Permissions) (t : Text) : Option Permissions := requested? m (t.length + 1) Holders.everyone m t

/-- The usual permissions: all may read and execute, the owner may write. -/
def usual : Permissions := ⟨⟨true, true, true⟩, ⟨true, false, true⟩, ⟨true, false, true⟩⟩

theorem withheld_usual : usual.withheld = Text.ofString "0022" := by decide +kernel

end Permissions

/-- Something of which there is only so much: its letter and its name, and the size of what is counted. -/
structure Resource where
  letter : Char
  name : String
  unit : Nat

/-- All resources, in the order in which they are listed. -/
def resources : List Resource :=
  [⟨'t', "time(seconds)", 1⟩, ⟨'f', "file(blocks)", 512⟩, ⟨'d', "data(kbytes)", 1024⟩,
    ⟨'s', "stack(kbytes)", 1024⟩, ⟨'c', "coredump(blocks)", 512⟩, ⟨'m', "memory(kbytes)", 1024⟩,
    ⟨'l', "locked memory(kbytes)", 1024⟩, ⟨'p', "process", 1⟩, ⟨'n', "nofiles", 1⟩,
    ⟨'v', "vmemory(kbytes)", 1024⟩, ⟨'w', "locks", 1⟩, ⟨'r', "rtprio", 1⟩]

/-- How much of a resource may be used, and the most to which that may be set; without a number there is
no end. -/
structure Limit where
  current : Option Nat
  most : Option Nat

/-- The limits that are not without end, by the letters of their resources. -/
abbrev Limits := List (Char × Limit)

namespace Limits

def usual : Limits :=
  [('s', ⟨some 8388608, none⟩), ('l', ⟨some 8388608, some 8388608⟩), ('n', ⟨some 1048576, some 1048576⟩),
    ('r', ⟨some 0, some 0⟩)]

def get (s : Limits) (letter : Char) : Limit := (s.lookup letter).getD ⟨none, none⟩

def set (s : Limits) (letter : Char) (l : Limit) : Limits := (letter, l) :: s.filter fun x => x.1 ≠ letter

@[simp] theorem get_set (s : Limits) (letter : Char) (l : Limit) : (s.set letter l).get letter = l := by
  simp [get, set]

end Limits

namespace Limit

/-- Whether an amount is no more than another. -/
def isWithin : Option Nat → Option Nat → Bool
  | _, none => true
  | some a, some b => a ≤ b
  | none, some _ => false

theorem isWithin_refl (n : Option Nat) : isWithin n n = true := by
  cases n <;> simp [isWithin]

/-- What is wrong with setting a limit: it must lie within the most, and the most is not raised. -/
def objection? (old new : Limit) : Option String :=
  if !isWithin new.current new.most then some "Invalid argument"
  else if !isWithin new.most old.most then some "Operation not permitted"
  else none

def text (r : Resource) : Option Nat → Text
  | none => "unlimited"
  | some n => Text.ofNat (n / r.unit)

end Limit

end LspEndpoint.Program.Shell
