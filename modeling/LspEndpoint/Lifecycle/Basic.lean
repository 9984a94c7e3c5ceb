import LspEndpoint.Lifecycle.Capabilities
import LspEndpoint.Params.Decode

/-!
The lifecycle of one server. It only moves forward, and it keeps apart whether the client was ever
accepted and whether the end was announced, since the second may come before the first.
-/
namespace LspEndpoint

inductive Phase
  | uninitialized
  | initialized
  | shuttingDown
deriving DecidableEq

def Phase.label : Phase → String
  | .uninitialized => "uninitialized"
  | .initialized => "initialized"
  | .shuttingDown => "shutting_down"

structure Lifecycle where
  phase : Phase
  accepted : Bool
  clientInfo : Option Json.Members
deriving DecidableEq

namespace Lifecycle

def start : Lifecycle := ⟨.uninitialized, false, none⟩

def isShuttingDown (l : Lifecycle) : Bool := l.phase = .shuttingDown

/-- The status of a process that ends now: success only after a shutdown. -/
def exitCode (l : Lifecycle) : Nat := if l.isShuttingDown then 0 else 1

/-- After a client was accepted. -/
def accept (l : Lifecycle) (p : InitializeParams) : Lifecycle where
  phase := match l.phase with
    | .uninitialized => .initialized
    | phase => phase
  accepted := true
  clientInfo := p.clientInfo

def shutDown (l : Lifecycle) : Lifecycle := { l with phase := .shuttingDown }

/-- What an accepted client is answered. -/
def welcome (serverInfo : Json) (p : InitializeParams) : Json :=
  .record [("capabilities", serverCapabilities (.object p.capabilities)), ("serverInfo", serverInfo)]

theorem isShuttingDown_accept (l : Lifecycle) (p : InitializeParams) :
    (l.accept p).isShuttingDown = l.isShuttingDown := by
  obtain ⟨phase, accepted, info⟩ := l
  cases phase <;> rfl

@[simp] theorem isShuttingDown_shutDown (l : Lifecycle) : l.shutDown.isShuttingDown = true := by
  simp [isShuttingDown, shutDown]

end Lifecycle

end LspEndpoint
