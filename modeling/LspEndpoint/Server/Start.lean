import LspEndpoint.Command.Open
import LspEndpoint.Config.Basic
import LspEndpoint.Server.Basic

/-!
Starting a server from its settings. A trace is kept if the settings name a file for it.
-/
namespace LspEndpoint.Server

/-- The file of the trace that the settings ask for, opened. -/
def openTrace (c : Config) (files : File.System) :
    Except File.OpenError (File.System × Option File.Place) :=
  if c.traceFile = [] then .ok (files, none)
  else (File.openToAdd files c.traceFile).map fun r => (r.1, some r.2)

/-- Why a line cannot be added to an opened file. -/
def unwritten? (files : File.System) (place : File.Place) : Option Fault :=
  match files.write place none (Text.octets "\n") with
  | .ok _ => none
  | .error r => some (.refused r none)

/-- How deep params may be nested to be elided: the stack has room for a thousand calls, and each level takes two. -/
def stackRoom : Nat := 490

/-- The trace in an opened file, whose lines are added at its end. At the end of the run the lines that
the file has not taken are written once more. -/
def tracingOf (c : Config) (time : Nat → Moment) (place : File.Place) : Tracing File.System where
  limit := c.traceLimit
  depth := stackRoom
  time := time
  write files line :=
    match files.write place none line.octets with
    | .ok after => (none, after)
    | .error r => (some r, files)
  close files tried := if tried = 0 then none else unwritten? files place

/-- What keeps the trace of a server from being closed. -/
def closingFault? (setup : Setup σ) (s : State σ) : Option Fault :=
  match setup.tracing with
  | none => none
  | some t => if s.traceClosed then none else t.close s.host s.linesTried

/-- Responses are handed to the framing, which fails on what it has no bytes for. -/
def deliverFramed (r : Rpc.Response) : Option Framing.WriteError :=
  match Framing.writeResponse r with
  | .ok _ => none
  | .error e => some e

/-- A server of these settings. -/
def Setup.ofConfig (c : Config) (platform : Text) (ask : σ → Store → Query → Answer × Store × σ)
    (launch : σ → List Text → Answer × σ) (tracing : Option (Tracing σ)) (clock : Nat → Binary64)
    (account : σ → Fault → Text) : Setup σ where
  serverInfo := c.serverInfo
  openCommand := Command.openWith platform c.openCommand
  ask := ask
  launch := launch
  tracing := tracing
  clock := clock
  deliver := deliverFramed
  leave host _ := (true, host)
  account := account

end LspEndpoint.Server
