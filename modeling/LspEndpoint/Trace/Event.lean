import LspEndpoint.Json.Printer
import LspEndpoint.Time
import LspEndpoint.Trace.Elision

/-!
What a trace records: each request with its params, each answer with its outcome and its duration in
milliseconds, and each notification. An event is written as one line of ASCII.
-/
namespace LspEndpoint.Trace

inductive Event
  | request (id : Json) (method : Text) (params : Json)
  | response (id : Json) (status : Text) (duration : Json)
  | notification (method : Text) (params : Json)
deriving DecidableEq

/-- The event as it is recorded; params have their long texts elided. -/
def Event.toJson (limit : Int) (time : Moment) : Event → Json
  | .request id method params =>
    .record [("type", Json.string "request"), ("timestamp", .text time.stamp), ("request_id", id),
      ("method", .text method), ("params", params.elided limit)]
  | .response id status duration =>
    .record [("type", Json.string "response"), ("timestamp", .text time.stamp), ("request_id", id),
      ("result_status", .text status), ("execution_time_ms", duration)]
  | .notification method params =>
    .record [("type", Json.string "notification"), ("timestamp", .text time.stamp),
      ("method", .text method), ("params", params.elided limit)]

/-- How deep the params of the event are nested, which is how deep they are walked over to be elided. -/
def Event.depth : Event → Nat
  | .request _ _ params | .notification _ params => params.depth
  | .response _ _ _ => 0

def Event.line (limit : Int) (time : Moment) (e : Event) : Text :=
  (e.toJson limit time).render true ++ "\n"

/-- Why a closed trace takes no more events. -/
def closedMessage : Text := "I/O operation on closed file."

end LspEndpoint.Trace
