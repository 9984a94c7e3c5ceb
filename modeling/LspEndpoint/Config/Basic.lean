import LspEndpoint.Config.Environment
import LspEndpoint.Datum.Display
import LspEndpoint.File.Open
import LspEndpoint.Number.Integer
import LspEndpoint.Rpc.Payload
import LspEndpoint.Yaml.Failure

/-!
Settings. They stand in four sections, each of which may be missing; a setting that is missing has a
default, and of two that are wrong the first in the order of the fields is reported.
-/
namespace LspEndpoint

structure Config where
  name : Datum
  version : Text
  openCommand : Option (List Text)
  timeout : Option Binary64
  traceFile : Text
  traceLimit : Int
  maxMessageSize : Int

namespace Config

/-- The sections, and the settings that each may hold. -/
def sections : List (String × List String) :=
  [("server", ["name", "version"]), ("commands", ["open_command", "timeout"]),
   ("trace", ["log_file", "max_string_length"]), ("transport", ["max_message_size"])]

/-- What is wrong with settings. The first six kinds are reported to the user, the others are not
expected. -/
inductive Error
  | missingFile (path : Text)
  | unparsable
  | notMapping
  | sectionNotMapping (name : String)
  | openCommand (got : Datum)
  | timeout (got : Datum)
  | timeoutTooLarge
  | unshown
  | notText (kind : String)
  | notNumber (kind : String)
  | bytesForText
  | malformedBytes (b : Bytes)
  | infinite
  | notANumber
  | integer (e : IntegerError)
  | unencodable (e : Unencodable)
  | unread (f : Yaml.Failure)
  | unopened (e : File.OpenError)

namespace Error

def isReported : Error → Bool
  | missingFile _ | unparsable | notMapping | sectionNotMapping _ | openCommand _ | timeout _ => true
  | _ => false

def message : Error → Text
  | missingFile path => "Config file not found: " ++ path
  | unparsable => "Failed to parse config YAML"
  | notMapping => "Config must be a YAML mapping"
  | sectionNotMapping name => "'" ++ Text.ofString name ++ "' must be a mapping"
  | openCommand got =>
    "commands.open_command must be a string or list of strings: " ++ got.quoted
  | timeout got => "commands.timeout must be a positive number: " ++ got.quoted
  | timeoutTooLarge => "int too large to convert to float"
  | unshown => Integer.unshownMessage
  | notText kind => "expected string or bytes-like object, got '" ++ Text.ofString kind ++ "'"
  | notNumber kind =>
    "int() argument must be a string, a bytes-like object or a real number, not '" ++
      Text.ofString kind ++ "'"
  | bytesForText => "cannot use a string pattern on a bytes-like object"
  | malformedBytes b => "invalid literal for int() with base 10: " ++ b.quoted.take 200
  | infinite => "cannot convert float infinity to integer"
  | notANumber => "cannot convert float NaN to integer"
  | integer e => e.message
  | unencodable e => e.message
  | unread f => f.message
  | unopened e => e.message

end Error

abbrev Setting (α : Type) := Except Error α

abbrev Section := List (Datum × Datum)

def Section.get? (s : Section) (key : String) : Option Datum := Datum.lookup? key s

/-- The value under a key, a default if the key is missing. -/
def Section.getD (s : Section) (key : String) (default : Datum) : Datum := (s.get? key).getD default

/-- A section of that name. What counts as absent is an empty section. -/
def readSection (all : Section) (name : String) : Setting Section :=
  match all.getD name .null with
  | .map entries => .ok entries
  | v => if v.isEmpty then .ok [] else .error (.sectionNotMapping name)

/-- Complains about a value, if it can be shown. -/
def refuse (error : Datum → Error) (v : Datum) : Error := if v.isShown then error v else .unshown

def texts? : List Datum → Option (List Text)
  | [] => some []
  | .text t :: rest => (texts? rest).map (t :: ·)
  | _ :: _ => none

/-- A command is one text, cut at its blanks, or a list of its parts that is not empty. -/
def readOpenCommand : Datum → Setting (Option (List Text))
  | .null => .ok none
  | .text t => .ok (some t.words)
  | .list items =>
    match items, texts? items with
    | _ :: _, some ts => .ok (some ts)
    | _, _ => .error (refuse .openCommand (.list items))
  | v => .error (refuse .openCommand v)

/-- A number that is not at most zero, as a double. -/
def readTimeout : Datum → Setting (Option Binary64)
  | .null => .ok none
  | .int n =>
    if n ≤ 0 then .error (refuse .timeout (.int n))
    else
      match Binary64.ofInt n with
      | .infinite _ => .error .timeoutTooLarge
      | x => .ok (some x)
  | .float x => if x.atMostZero then .error (.timeout (.float x)) else .ok (some x)
  | v => .error (refuse .timeout v)

/-- Any value is a version, as it is shown. -/
def readVersion (v : Datum) : Setting Text := if v.isShown then .ok v.display else .error .unshown

def readTraceFile (e : Environment) (v : Datum) : Setting Text :=
  if v.isEmpty then .ok []
  else
    match v with
    | .text t => (e.expand t).mapError .unencodable
    | .bytes _ => .error .bytesForText
    | v => .error (.notText v.qualifiedKind)

def readInteger : Datum → Setting Int
  | .bool b => .ok (if b then 1 else 0)
  | .int n => .ok n
  | .float x =>
    match x.truncate? with
    | some n => .ok n
    | none => .error (if x.isNaN then .notANumber else .infinite)
  | .text t => (Integer.read t).mapError .integer
  | .bytes b =>
    match Integer.read b.decodeAscii with
    | .ok n => .ok n
    | .error (.malformed _) => .error (.malformedBytes b)
    | .error e => .error (.integer e)
  | v => .error (.notNumber v.qualifiedKind)

def defaultName : Datum := .text "racket-langserver"

def defaultVersion : Text := "1.0.0"

def defaultTraceLimit : Int := 200

def default : Config where
  name := defaultName
  version := defaultVersion
  openCommand := none
  timeout := none
  traceFile := []
  traceLimit := defaultTraceLimit
  maxMessageSize := Rpc.defaultMaxSize

/-- The settings that a mapping holds; keys that are no settings are passed over. -/
def ofMapping (e : Environment) (all : Section) : Setting Config := do
  let server ← readSection all "server"
  let commands ← readSection all "commands"
  let trace ← readSection all "trace"
  let transport ← readSection all "transport"
  let version ← readVersion (server.getD "version" (.text defaultVersion))
  let openCommand ← readOpenCommand (commands.getD "open_command" .null)
  let timeout ← readTimeout (commands.getD "timeout" .null)
  let traceFile ← readTraceFile e (trace.getD "log_file" .null)
  let traceLimit ← readInteger (trace.getD "max_string_length" (.int defaultTraceLimit))
  let maxMessageSize ← readInteger (transport.getD "max_message_size" (.int Rpc.defaultMaxSize))
  return {
    name := server.getD "name" defaultName
    version, openCommand, timeout, traceFile, traceLimit, maxMessageSize }

/-- What clients are told about the server, if it can be written. -/
def serverInfo (c : Config) : Except Unwritable Json :=
  c.name.toJson.map fun name => .record [("name", name), ("version", .text c.version)]

end Config

end LspEndpoint
