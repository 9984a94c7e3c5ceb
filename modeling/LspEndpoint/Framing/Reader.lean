import LspEndpoint.Number.Integer
import LspEndpoint.Text.Entries
import LspEndpoint.Text.Utf8

/-!
Reading frames. A frame is a block of header lines, a blank line, and as many bytes as the block's
last `Content-Length` says. A block whose length is missing or no integer is skipped; one that is
negative takes all bytes that are left.
-/
namespace LspEndpoint.Framing

abbrev Headers := Entries Text

/-- The name and the value of a header line, if it has a colon. -/
def header? (line : Bytes) : Option (Text × Text) :=
  let t := line.decodeAscii
  let isColon := fun c : CodePoint => c.val == 0x3A
  match t.dropWhile (fun c => !isColon c) with
  | [] => none
  | _ :: value => some ((Text.trim (t.takeWhile fun c => !isColon c)).toAsciiLower, Text.trim value)

def Headers.addLine (headers : Headers) (line : Bytes) : Headers :=
  match header? line with
  | none => headers
  | some (name, value) => Entries.insert name value headers

def Headers.contentLength (headers : Headers) : Except IntegerError Int :=
  Integer.read ((headers.lookup (Text.ofString "content-length")).getD [])

/-- The headers as the log shows them. -/
def Headers.display (headers : Headers) : Text :=
  "\x7b" ++ Text.joined ", " (headers.map fun h => h.1.quoted ++ ": " ++ h.2.quoted) ++ "\x7d"

/-- What a read comes to: a body and the bytes after it, the end of the input inside a header block,
its end inside a body with the number of bytes that are missing, or a length beyond what can be
counted. -/
inductive Outcome
  | body (text : Text) (rest : Bytes)
  | ended
  | truncated (missing : Nat)
  | overflow
deriving DecidableEq

/-- The outcome of a read and the blocks it skipped, in order. -/
structure Read where
  skipped : List Headers
  outcome : Outcome
deriving DecidableEq

/-- Lengths are counted in 63 bits and a sign. -/
def countable (n : Int) : Bool := -0x8000000000000000 ≤ n && n < 0x8000000000000000

/-- The body of the declared length at the start of the bytes. -/
def takeBody (length : Int) (bytes : Bytes) : Outcome :=
  if !countable length then .overflow
  else if length < 0 then .body bytes.decode []
  else if bytes.length < length.toNat then .truncated (length.toNat - bytes.length)
  else .body (Bytes.decode (bytes.take length.toNat)) (bytes.drop length.toNat)

def isBlankLine (backwards : Bytes) : Bool := backwards == [] || backwards == [0x0D]

/-- Reads on in a header block; the line begun so far and the blocks skipped are held backwards. -/
def readFrom (skipped : List Headers) (headers : Headers) (line : Bytes) : Bytes → Read
  | [] => ⟨skipped.reverse, .ended⟩
  | b :: rest =>
    if b = 0x0A then
      if isBlankLine line then
        match headers.contentLength with
        | .error _ => readFrom (headers :: skipped) [] [] rest
        | .ok length => ⟨skipped.reverse, takeBody length rest⟩
      else readFrom skipped (headers.addLine line.reverse) [] rest
    else readFrom skipped headers (b :: line) rest

/-- The next frame of the input. -/
def read (input : Bytes) : Read := readFrom [] [] [] input

def skippedMessage (headers : Headers) : Text :=
  "Skipping frame without a valid Content-Length: " ++ headers.display

def overflowMessage : Text := "cannot fit 'int' into an index-sized integer"

theorem length_takeBody {length : Int} {bytes : Bytes} {text : Text} {rest : Bytes}
    (h : takeBody length bytes = .body text rest) : rest.length ≤ bytes.length := by
  unfold takeBody at h
  repeat' split at h
  all_goals first
    | cases h; simp
    | cases h

/-- A frame that was read took at least one byte. -/
theorem length_readFrom {skipped : List Headers} {headers : Headers} {line input : Bytes}
    {text : Text} {rest : Bytes}
    (h : (readFrom skipped headers line input).outcome = .body text rest) :
    rest.length < input.length := by
  induction input generalizing skipped headers line with
  | nil => cases h
  | cons b input ih =>
    simp only [readFrom] at h
    repeat' split at h
    · exact Nat.lt_succ_of_lt (ih h)
    · exact Nat.lt_succ_of_le (length_takeBody h)
    · exact Nat.lt_succ_of_lt (ih h)
    · exact Nat.lt_succ_of_lt (ih h)

theorem length_read {input rest : Bytes} {text : Text}
    (h : (read input).outcome = .body text rest) : rest.length < input.length :=
  length_readFrom h

/-- Whether what is read stays the same whatever bytes may still follow. -/
def isSettled (input : Bytes) : Bool :=
  match (read (input ++ [0])).outcome with
  | .body _ rest => rest != []
  | .overflow => true
  | _ => false

/-- All bodies up to the first read that returns none, the blocks skipped, and how it ended. -/
def readAll (input : Bytes) : List Text × List Headers × Outcome :=
  let r := read input
  match _h : r.outcome with
  | .body text rest =>
    let (bodies, skipped, outcome) := readAll rest
    (text :: bodies, r.skipped ++ skipped, outcome)
  | outcome => ([], r.skipped, outcome)
termination_by input.length
decreasing_by exact length_read _h

end LspEndpoint.Framing
