import LspEndpoint.Command.Execute
import LspEndpoint.Datum.Display
import LspEndpoint.Server.Basic
import LspEndpoint.Text.Blank

/-!
Routing. Every request gets one response: a refusal keeps its own code, any other fault is logged and
answered without its details. A notification is never answered, and its faults are logged. Requests
before initialization and after shutdown are routed like all others. What is raised while a fault is
shown or an event is traced stops the server; a line that the trace does not take is only logged.
-/
namespace LspEndpoint.Server

variable {σ : Type}

/-- How a handler ends: with a reply, which may be an error of its own, or with a fault. -/
inductive Outcome
  | reply (r : Rpc.Reply)
  | fault (f : Fault)
deriving DecidableEq

/-- What a handler did before it ended. -/
structure Handled (σ : Type) where
  state : State σ
  events : List Event
  outcome : Outcome

def refusal (e : Params.Error) : Rpc.Reply := .error (.plain Rpc.invalidParams e.message)

def Handled.refused (s : State σ) (e : Params.Error) : Handled σ := ⟨s, [], .reply (refusal e)⟩

def clientField (info : Json.Members) (key : Text) (default : Text) : Text :=
  match info.lookup key with
  | some v => v.display
  | none => default

/-- What the log says about an accepted client. -/
def greeting (p : InitializeParams) : Text :=
  let info := p.clientInfo.getD []
  Text.trimRight ("Initialized by " ++ clientField info "name" "unknown client" ++ " " ++
    clientField info "version" [])

def welcomed (serverInfo : Except Unwritable Json) (p : InitializeParams) : Rpc.Reply :=
  match serverInfo with
  | .ok info => .result (Lifecycle.welcome info p)
  | .error e => .unwritable e

def initialized (setup : Setup σ) (params : Json) (s : State σ) : Handled σ :=
  match Params.initialization params with
  | .error e => .refused s e
  | .ok p =>
    ⟨{ s with lifecycle := s.lifecycle.accept p }, [.logged (greeting p)],
      .reply (welcomed setup.serverInfo p)⟩

def outcomeOf : Answer → Outcome
  | .result v => .reply (.result v)
  | .refused e => .reply (.error e)
  | .failed f => .fault f

def executed (setup : Setup σ) (params : Json) (s : State σ) : Handled σ :=
  match Command.path params with
  | .error (.refused e) => .refused s e
  | .error (.faulty f) => ⟨s, [], .fault f⟩
  | .ok path =>
    let argv := Command.argv setup.openCommand path
    let (answer, host) := setup.launch s.host argv
    ⟨{ s with host }, [.launched argv], outcomeOf (answer.map Command.result)⟩

def queried (setup : Setup σ) (operation : Operation) (params : Json) (s : State σ) : Handled σ :=
  match Arguments.decode operation params with
  | .error e => .refused s e
  | .ok arguments =>
    let query : Query := ⟨operation, arguments⟩
    let (answer, store, host) := setup.ask s.host s.store query
    ⟨{ s with store, host }, [.asked query], outcomeOf answer⟩

def handled (setup : Setup σ) (m : RequestMethod) (params : Json) (s : State σ) : Handled σ :=
  match m with
  | .initialization => initialized setup params s
  | .shutdown => ⟨{ s with lifecycle := s.lifecycle.shutDown }, [], .reply (.result .null)⟩
  | .executeCommand => executed setup params s
  | .document operation => queried setup operation params s

def unknownMethod (method : Text) : Rpc.Reply :=
  .error (.plain Rpc.methodNotFound ("The method '" ++ method ++ "' was not found"))

def internalError (method : Text) : Rpc.Reply :=
  .error (.plain Rpc.internalError ("internal error in method " ++ method))

/-- What the log says about a request that came to a fault. -/
def requestFault (method shown account : Text) : Text :=
  "Error in method " ++ method ++ ": " ++ shown ++ "\n" ++ account

def notificationFault (method shown : Text) : Text :=
  "Error in notification " ++ method ++ ": " ++ shown

def writeFault (r : File.Refusal) : Text := "Trace write failed: " ++ r.display

/-- Logs a fault in these words, if it can be shown. -/
def note (line : Text → Text) (f : Fault) (s : State σ) : Step σ :=
  match f.display with
  | .ok shown => .did s (.logged (line shown))
  | .error r => .raising s r

/-- What the handler of a request does, and the reply that follows unless something is raised. -/
def replied (setup : Setup σ) (method : Text) (params : Json) (s : State σ) : Step σ × Rpc.Reply :=
  match RequestMethod.ofText? method with
  | none => (.still s, unknownMethod method)
  | some m =>
    let h := handled setup m params s
    let step : Step σ := ⟨h.state, h.events, none⟩
    match h.outcome with
    | .reply r => (step, r)
    | .fault f =>
      (step.andThen (note (requestFault method · (setup.account h.state.host f)) f), internalError method)

/-- Writes a line of the trace, if there is one; a line that fails is logged instead. -/
def traced (setup : Setup σ) (e : Trace.Event) (s : State σ) : Step σ :=
  match setup.tracing with
  | none => .still s
  | some t =>
    if t.depth < e.depth then .raising s .tooDeep
    else if s.traceClosed then ⟨s, [], some .traceClosed⟩
    else
      let time := t.time s.linesTried
      let (refusal?, host) := t.write s.host (e.line t.limit time)
      let s := { s with host, linesTried := s.linesTried + 1 }
      match refusal? with
      | none => .did s (.traced time e)
      | some r => .did s (.logged (writeFault r))

def emit (setup : Setup σ) (r : Rpc.Response) (s : State σ) : Step σ :=
  match setup.deliver r with
  | none => .did s (.emitted r)
  | some e => ⟨s, [], some (.undelivered e)⟩

/-- The milliseconds between two times given in seconds. -/
def duration (start stop : Binary64) : Binary64 := (stop.sub start).mul (Binary64.ofInt 1000)

def tick (s : State σ) : State σ := { s with clockReads := s.clockReads + 1 }

/-- Traces the end of a request; the clock is read for that only if there is a trace, once the outcome has a name. -/
def tracedEnd (setup : Setup σ) (start : Binary64) (r : Rpc.Response) (s : State σ) : Step σ :=
  match setup.tracing with
  | none => .still s
  | some _ =>
    match r.status? with
    | none => .raising s .tooManyDigits
    | some status =>
      traced setup (.response r.id status (.float (duration start (setup.clock s.clockReads)))) (tick s)

def request (setup : Setup σ) (id : Json) (method : Text) (params : Json) (s : State σ) : Step σ :=
  (traced setup (.request id method params) s).andThen fun s =>
    let start := setup.clock s.clockReads
    let (step, reply) := replied setup method params (tick s)
    let response : Rpc.Response := ⟨id, reply⟩
    step.andThen fun s => (tracedEnd setup start response s).andThen (emit setup response)

/-- What a notification does to the open documents, and what went wrong with it. -/
def notified (m : NotificationMethod) (params : Json) (store : Store) : Store × Option Fault :=
  match m with
  | .exit => (store, none)
  | .didOpen =>
    match Params.didOpen params with
    | .error e => (store, some (.params e))
    | .ok p => (store.openDocument p, none)
  | .didChange =>
    match Params.didChange params with
    | .error e => (store, some (.params e))
    | .ok p =>
      let (store', failure) := store.changeDocument p
      (store', failure.map ChangeError.fault)
  | .didClose =>
    match Params.didClose params with
    | .error e => (store, some (.params e))
    | .ok p => (store.closeDocument p, none)

/-- Asks for the end of the run; it goes on where the end is only noted. -/
def exited (setup : Setup σ) (s : State σ) : Step σ :=
  let code := s.lifecycle.exitCode
  let (isOver, host) := setup.leave s.host code
  ⟨{ s with host }, [.exited code], if isOver then some (.exited code) else none⟩

def notification (setup : Setup σ) (method : Text) (params : Json) (s : State σ) : Step σ :=
  (traced setup (.notification method params) s).andThen fun s =>
    match NotificationMethod.ofText? method with
    | none => .still s
    | some .exit => exited setup s
    | some m =>
      let (store, failure) := notified m params s.store
      let s := { s with store }
      match failure with
      | none => .still s
      | some f => note (notificationFault method) f s

def message (setup : Setup σ) : Rpc.Message → State σ → Step σ
  | .request id method params => request setup id method params
  | .notification method params => notification setup method params
  | .invalid id => emit setup (.invalid id)

/-- Handles one value that came in. -/
def process (setup : Setup σ) (v : Json) : State σ → Step σ :=
  Step.each (message setup) (Rpc.classify v).toList

/-- Handles values one after the other, until something stops the server. -/
def run (setup : Setup σ) (vs : List Json) : State σ → Step σ :=
  Step.each (process setup) vs

theorem run_append (setup : Setup σ) (first second : List Json) (s : State σ) :
    run setup (first ++ second) s = (run setup first s).andThen (run setup second) :=
  Step.each_append _ _ _ _

end LspEndpoint.Server
