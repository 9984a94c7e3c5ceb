import LspEndpoint.Backend.Plain
import LspEndpoint.File.Standard
import LspEndpoint.Program.Launch
import LspEndpoint.Session
import Std.Time.DateTime

/-!
The server as a program: frames come in on the standard input and go out on the standard output, and the
log goes to the standard error. Time stands still while one frame is handled.
-/
namespace LspEndpoint.Main

def platform : Text := "linux"

/-- What a file holds, as octets; nothing if it cannot be read. -/
def contents? (path : Text) : IO (Option Text) := do
  try
    let b ← IO.FS.readBinFile path.toString
    return some (b.toList.map fun x => CodePoint.ofNat x.toNat)
  catch _ => return none

/-- The files that matter to a session: those of every system, and the one with its settings. -/
def filesWith (path? content? : Option Text) : File.System :=
  match path?, content? with
  | some path, some content => File.systemWith path content File.standardSystem
  | _, _ => File.standardSystem

/-- The variables that a text refers to, and the home directory. -/
def environment (t : Text) : IO Environment := do
  let bindings ← (Environment.names t).filterMapM fun name => do
    return (← IO.getEnv name.toString).map fun v => (name, Text.ofString v)
  return ⟨bindings, Text.ofString ((← IO.getEnv "HOME").getD "/")⟩

def bytesOf (b : Bytes) : ByteArray := ⟨b.toArray⟩

/-- The moment in universal time. -/
def now : IO Moment := do
  let t := Std.Time.PlainDateTime.ofWallTime
    ((← Std.Time.Timestamp.now).toWallTime Std.Time.TimeZone.Offset.zero)
  let date : Date := ⟨t.date.year.toInt.toNat, t.date.month.val.toNat, t.date.day.val.toNat⟩
  return ⟨date, t.time.hour.val.toNat, t.time.minute.val.toNat, t.time.second.val.toNat,
    t.time.nanosecond.val.toNat / 1000, none⟩

/-- Opens a trace to add lines to; its directory is made if need be. -/
def openTrace (path : Text) : IO IO.FS.Handle := do
  match (File.steps path).dropLast with
  | [] => pure ()
  | steps => IO.FS.createDirAll (File.root path ++ Text.joined "/" steps).toString
  IO.FS.Handle.mk path.toString .append

/-- The streams of a session, and the file of its trace with the longest text that it shows. -/
structure Streams where
  input : IO.FS.Stream
  output : IO.FS.Stream
  errors : IO.FS.Stream
  trace : Option (IO.FS.Handle × Int)

namespace Streams

def log (s : Streams) (line : Text) : IO Unit := s.errors.putStr (Session.logLine line).toString

/-- Makes an event known. -/
def publish (s : Streams) : Server.Event → IO Unit
  | .emitted r => do
    s.output.write (bytesOf (Server.Event.emitted r).output)
    s.output.flush
  | .logged line => s.log line
  | .traced time e => do
    match s.trace with
    | some (handle, limit) =>
      handle.putStr (e.line limit time).toString
      handle.flush
    | none => pure ()
  | .asked _ | .launched _ | .exited _ => pure ()

/-- Reads until the next frame is settled or the input ends. -/
partial def fill (s : Streams) (buffer : Bytes) : IO Bytes := do
  if Framing.isSettled buffer then return buffer
  let wanted := match (Framing.read buffer).outcome with
    | .truncated missing => missing
    | _ => 1
  let chunk ← s.input.read (USize.ofNat wanted)
  if chunk.isEmpty then return buffer else s.fill (buffer ++ chunk.toList)

end Streams

def setup (e : Environment) (c : Config) (place? : Option File.Place) (time : Moment) (clock : Binary64) :
    Server.Setup File.System :=
  .ofConfig c platform (Backend.reading Backend.empty)
    (fun files argv => (Program.launch e c.timeout files argv).map Answer.ofPrinted id)
    (place?.map (Server.tracingOf c fun _ => time))
    (fun _ => clock) fun _ f => f.account

/-- Answers frames until the session ends. -/
partial def serve (s : Streams) (e : Environment) (c : Config) (place? : Option File.Place)
    (state : Server.State File.System) (buffer : Bytes) : IO Session.Ending := do
  let buffer ← s.fill buffer
  let clock := Binary64.ofRatio false (← IO.monoNanosNow) 1000000000
  let turn := Session.turn (setup e c place? (← now) clock) c.maxMessageSize false state (Framing.read buffer)
  turn.events.forM s.publish
  match turn.next with
  | .error ending => return ending
  | .ok rest => serve s e c place? turn.state rest

def run (arguments : List Text) : IO Nat := do
  let path? := match CommandLine.read arguments with
    | .ok (.serve path?) => path?
    | _ => none
  let content? ← match path? with
    | some path => contents? path
    | none => pure none
  let environment ← environment (content?.getD [])
  let output ← IO.getStdout
  let errors ← IO.getStderr
  match Session.start environment (filesWith path? content?) arguments with
  | .done out err code => do
    output.putStr out.toString
    errors.putStr err.toString
    return code
  | .faulty log e => do
    let shown : Text := log.flatMap Session.logLine ++ e.message ++ "\n"
    errors.putStr shown.toString
    return Session.faultCode
  | .serving log c files place? => do
    let trace ← if c.traceFile = [] then pure none
      else do pure (some (← openTrace c.traceFile, c.traceLimit))
    let s : Streams := ⟨← IO.getStdin, output, errors, trace⟩
    log.forM s.log
    let ending ← serve s environment c place? (.start files) []
    ending.log.forM s.log
    return ending.code

end LspEndpoint.Main

def main (arguments : List String) : IO UInt32 := do
  return UInt32.ofNat (← LspEndpoint.Main.run (arguments.map LspEndpoint.Text.ofString))
