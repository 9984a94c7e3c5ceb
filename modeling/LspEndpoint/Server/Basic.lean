import LspEndpoint.Backend.Basic
import LspEndpoint.Framing.Writer
import LspEndpoint.Lifecycle.Basic
import LspEndpoint.Rpc.Message
import LspEndpoint.Trace.Event

/-!
The state of a server, what surrounds it, and what it does. A step of a server is the state it leaves,
the events it causes in order, and what stopped it if it was stopped; steps are put together by
`andThen`, which drops everything after a stop.
-/
namespace LspEndpoint.Server

/-- How a trace is kept: the longest text that it shows, how deep params may be nested to be elided, the time of
each line, counted from the first that was tried, how a line is written among what the programs share, or why it is
not, and what keeps the trace from being closed after so many lines were tried. -/
structure Tracing (σ : Type) where
  limit : Int
  depth : Nat
  time : Nat → Moment
  write : σ → Text → Option File.Refusal × σ
  close : σ → Nat → Option Fault

/-- What surrounds a server: its name as clients are told it, the open command, the backend and the
programs, which share a state of their own, the trace, the clock in seconds, the way out for
responses, what becomes of the run when an exit with some status is asked for, and the account that the log gives of
how a request came to a fault. A backend has the open documents at hand; one that only reads them gives them back as
they were. -/
structure Setup (σ : Type) where
  serverInfo : Except Unwritable Json
  openCommand : List Text
  ask : σ → Store → Query → Answer × Store × σ
  launch : σ → List Text → Answer × σ
  tracing : Option (Tracing σ)
  clock : Nat → Binary64
  deliver : Rpc.Response → Option Framing.WriteError
  leave : σ → Nat → Bool × σ
  account : σ → Fault → Text

structure State (σ : Type) where
  lifecycle : Lifecycle
  store : Store
  host : σ
  clockReads : Nat
  linesTried : Nat
  traceClosed : Bool

namespace State

variable {σ : Type}

def start (host : σ) : State σ := ⟨.start, .empty, host, 0, 0, false⟩

def closeTrace (s : State σ) : State σ := { s with traceClosed := true }

end State

inductive Event
  | emitted (r : Rpc.Response)
  | logged (line : Text)
  | traced (time : Moment) (e : Trace.Event)
  | asked (q : Query)
  | launched (argv : List Text)
  | exited (code : Nat)
deriving DecidableEq

/-- The responses among events, in order. -/
def emitted (events : List Event) : List Rpc.Response :=
  events.filterMap fun
    | .emitted r => some r
    | _ => none

/-- What an event puts on the standard output. -/
def Event.output : Event → Bytes
  | .emitted r => (Framing.writeResponse r).toOption.getD []
  | _ => []

/-- What stops a server: the end of the run, a response that cannot be sent, a trace that is closed, or what is raised
while it routes. -/
inductive Halt
  | exited (code : Nat)
  | undelivered (e : Framing.WriteError)
  | traceClosed
  | raised (r : Raised)
deriving DecidableEq

structure Step (σ : Type) where
  state : State σ
  events : List Event
  halt : Option Halt

namespace Step

variable {σ α : Type}

def still (s : State σ) : Step σ := ⟨s, [], none⟩

def did (s : State σ) (e : Event) : Step σ := ⟨s, [e], none⟩

def raising (s : State σ) (r : Raised) : Step σ := ⟨s, [], some (.raised r)⟩

def andThen (a : Step σ) (next : State σ → Step σ) : Step σ :=
  match a.halt with
  | some _ => a
  | none =>
    let b := next a.state
    ⟨b.state, a.events ++ b.events, b.halt⟩

/-- A step for each element in turn. -/
def each (f : α → State σ → Step σ) : List α → State σ → Step σ
  | [], s => still s
  | a :: rest, s => (f a s).andThen (each f rest)

@[simp] theorem still_andThen (s : State σ) (next : State σ → Step σ) :
    (still s).andThen next = next s := by
  simp [still, andThen]

@[simp] theorem andThen_still (a : Step σ) : a.andThen still = a := by
  obtain ⟨s, events, halt⟩ := a
  cases halt <;> simp [andThen, still]

theorem andThen_assoc (a : Step σ) (f g : State σ → Step σ) :
    (a.andThen f).andThen g = a.andThen fun s => (f s).andThen g := by
  obtain ⟨s, events, halt⟩ := a
  cases halt with
  | some h => rfl
  | none =>
    simp only [andThen]
    cases h : (f s).halt <;> simp [h]

theorem each_append (f : α → State σ → Step σ) (first second : List α) (s : State σ) :
    each f (first ++ second) s = (each f first s).andThen (each f second) := by
  induction first generalizing s with
  | nil => simp [each]
  | cons a rest ih =>
    simp only [List.cons_append, each, andThen_assoc]
    congr 1
    exact funext ih

end Step

end LspEndpoint.Server
