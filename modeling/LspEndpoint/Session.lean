import LspEndpoint.CommandLine
import LspEndpoint.Config.Load
import LspEndpoint.Framing.Reader
import LspEndpoint.Server.Route
import LspEndpoint.Server.Start

/-!
A session: the command line is followed, the settings are read, and then frames are answered one by one
until an exit, the end of the input, an interruption or a fault. What cannot be answered as a parse error
ends the session.
-/
namespace LspEndpoint.Session

/-- A line of the log as it is shown. -/
def logLine (t : Text) : Text := "[LSP] " ++ t ++ "\n"

def startedLine : Text := "Racket language server started"

def configLine (path : Text) : Text := "Config loaded from: " ++ File.normal path

def endedLine : Text := "EOF received, shutting down"

def interruptedLine : Text := "Interrupted, shutting down"

def errorLine (message : Text) : Text := "Error: " ++ message

/-- The exit code of a session that was interrupted. -/
def interruptedCode : Nat := 130

/-- The exit code of a session that a fault ended. -/
def faultCode : Nat := 1

/-- What a command line comes to: it is done with, the settings have a fault that is not reported, or a
server starts with these settings, lines of the log, the files, and the file of its trace. -/
inductive Start
  | done (output errors : Text) (code : Nat)
  | faulty (log : List Text) (e : Config.Error)
  | serving (log : List Text) (c : Config) (files : File.System) (trace : Option File.Place)

def settings (e : Environment) (files : File.System) : Option Text → Config.Setting Config
  | none => .ok .default
  | some path => Config.load e files path

/-- Follows the command line. -/
def start (e : Environment) (files : File.System) (arguments : List Text) : Start :=
  let width := CommandLine.lineWidth e
  match CommandLine.read arguments with
  | .error e => .done [] (e.message width) CommandLine.Error.exitCode
  | .ok .help => .done (CommandLine.helpText width) [] 0
  | .ok .version => .done CommandLine.versionText [] 0
  | .ok (.serve path?) =>
    match settings e files path? with
    | .error e =>
      if e.isReported then .done [] ("Error loading config: " ++ e.message ++ "\n") faultCode
      else .faulty [] e
    | .ok c =>
      let log := startedLine :: path?.toList.map configLine
      match Server.openTrace c files with
      | .error e => .faulty log (.unopened e)
      | .ok (files, trace) => .serving log c files trace

/-- How a session ends: by an exit, at the end of the input, by an interruption or with a fault. -/
inductive Ending
  | exit (code : Nat)
  | inputEnded (code : Nat)
  | interrupted
  | fault (message : Text)
deriving DecidableEq

namespace Ending

def code : Ending → Nat
  | exit code | inputEnded code => code
  | interrupted => interruptedCode
  | fault _ => faultCode

/-- What the log says about the end; an exit is not logged. -/
def log : Ending → List Text
  | exit _ => []
  | inputEnded _ => [endedLine]
  | interrupted => [interruptedLine]
  | fault message => [errorLine message]

def ofHalt : Server.Halt → Ending
  | .exited code => exit code
  | .undelivered e => fault e.message
  | .traceClosed => fault Trace.closedMessage
  | .raised r => fault r.message

end Ending

variable {σ : Type}

/-- What a read leads to: events, the state, and how the session ends or what is left to read. -/
structure Turn (σ : Type) where
  events : List Server.Event
  state : Server.State σ
  next : Except Ending Bytes

namespace Turn

def stop (s : Server.State σ) (e : Ending) : Turn σ := ⟨[], s, .error e⟩

/-- The turn of a step of the server that leaves these bytes to read. -/
def ofStep (step : Server.Step σ) (rest : Bytes) : Turn σ :=
  ⟨step.events, step.state, match step.halt with
    | none => .ok rest
    | some h => .error (.ofHalt h)⟩

theorem ofStep_rest {step : Server.Step σ} {rest rest' : Bytes}
    (h : (ofStep step rest).next = .ok rest') : rest' = rest := by
  unfold ofStep at h
  split at h
  · simp_all
  · cases h

end Turn

/-- Answers one payload. -/
def answered (setup : Server.Setup σ) (limit : Int) (s : Server.State σ) (payload : Text)
    (rest : Bytes) : Turn σ :=
  match Rpc.readPayload limit payload with
  | .ok v => .ofStep (Server.process setup v s) rest
  | .error e =>
    if e.isParseError then .ofStep (Server.emit setup e.response s) rest
    else .stop s (.fault e.message)

theorem answered_rest {setup : Server.Setup σ} {limit : Int} {s : Server.State σ}
    {payload : Text} {rest rest' : Bytes}
    (h : (answered setup limit s payload rest).next = .ok rest') : rest' = rest := by
  unfold answered at h
  split at h
  · exact Turn.ofStep_rest h
  · split at h
    · exact Turn.ofStep_rest h
    · cases h

/-- Acts on what was read; an interruption shows only where a line of a header was waited for. -/
def acted (setup : Server.Setup σ) (limit : Int) (isInterrupted : Bool) (s : Server.State σ) :
    Framing.Outcome → Turn σ
  | .body payload rest => answered setup limit s payload rest
  | .ended => .stop s (if isInterrupted then .interrupted else .inputEnded s.lifecycle.exitCode)
  | .truncated _ => .stop s (.inputEnded s.lifecycle.exitCode)
  | .overflow => .stop s (.fault Framing.overflowMessage)

def turn (setup : Server.Setup σ) (limit : Int) (isInterrupted : Bool) (s : Server.State σ)
    (r : Framing.Read) : Turn σ :=
  let t := acted setup limit isInterrupted s r.outcome
  { t with events := r.skipped.map (fun h => .logged (Framing.skippedMessage h)) ++ t.events }

theorem length_turn {setup : Server.Setup σ} {limit : Int} {isInterrupted : Bool}
    {s : Server.State σ} {input rest : Bytes}
    (h : (turn setup limit isInterrupted s (Framing.read input)).next = .ok rest) :
    rest.length < input.length := by
  unfold turn acted at h
  split at h
  · rename_i hb
    rw [answered_rest h]
    exact Framing.length_read hb
  all_goals cases h

/-- What a session comes to: its events in order, the last state, and how it ended. -/
structure Served (σ : Type) where
  events : List Server.Event
  state : Server.State σ
  ending : Ending

namespace Served

/-- What a session puts on the standard output. -/
def output (r : Served σ) : Bytes := r.events.flatMap Server.Event.output

/-- The status of a session, unless its trace cannot be closed at the end. -/
def status (setup : Server.Setup σ) (r : Served σ) : Except Fault Nat :=
  match Server.closingFault? setup r.state with
  | some f => .error f
  | none => .ok r.ending.code

end Served

/-- Answers the frames of an input in turn. -/
def serve (setup : Server.Setup σ) (limit : Int) (isInterrupted : Bool) (s : Server.State σ)
    (input : Bytes) : Served σ :=
  let t := turn setup limit isInterrupted s (Framing.read input)
  match _h : t.next with
  | .error e => ⟨t.events, t.state, e⟩
  | .ok rest =>
    let r := serve setup limit isInterrupted t.state rest
    { r with events := t.events ++ r.events }
termination_by input.length
decreasing_by exact length_turn _h

end LspEndpoint.Session
