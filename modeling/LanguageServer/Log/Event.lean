import LanguageServer.ErrorCode
import LanguageServer.Message
import LanguageServer.Text.Quoted

/-! What is logged. An event names what happened; its level and its wording follow from that. -/

namespace LanguageServer.Log

/-- How grave an event is, the gravest last. -/
inductive Level where
  | trace
  | debug
  | info
  | warn
  | error
deriving DecidableEq

namespace Level

/-- The rank of a level. -/
def rank : Level → Nat
  | trace => 1
  | debug => 2
  | info => 3
  | warn => 4
  | error => 5

/-- The name of a level in the log. -/
def name : Level → String
  | trace => "TRACE"
  | debug => "DEBUG"
  | info => "INFO"
  | warn => "WARN"
  | error => "ERROR"

end Level

/-- Something that is logged. -/
inductive Event where
  /-- A message came in. The label is its method, or the id that a response answers. -/
  | incoming (label : String)
  /-- The client of a process starts the server up for a root. -/
  | startUp (process : Option UInt32) (root : Option String)
  | requestFailed (id method : String) (failure : Exception)
  | notificationFailed (method : String) (failure : Exception)
  /-- A payload that is no message looks like the request with an id. -/
  | requestRejected (id : String) (failure : Exception)
  /-- A payload that is no message does not look like a request. -/
  | payloadDropped (failure : Exception)
  | droppedText (raw : String)
  | flushing
  | responseWithoutId
  | responseUnknown (id : String)
  | answeredServerError (id : String) (error : ResponseError)
  | answeredError (id : String) (error : ResponseError)
  | answered (id : String)
  | lineRejected (line : Nat) (failure : Exception)
  | timing
  | replayed (lines rejected written : Nat)
  | replaying (source : String)
  | linesRejected (rejected lines : Nat)
deriving DecidableEq

namespace Event

/-- The level of an event. -/
def level : Event → Level
  | incoming _ | startUp _ _ | droppedText _ | answeredError _ _ | answered _ | lineRejected _ _
  | timing => .debug
  | requestFailed _ _ _ | notificationFailed _ _ | requestRejected _ _ | responseWithoutId
  | responseUnknown _ | answeredServerError _ _ => .warn
  | payloadDropped _ => .error
  | flushing => .trace
  | replayed _ _ _ | replaying _ | linesRejected _ _ => .info

/-- The wording of an event. -/
def message : Event → String
  | incoming _ => "LSP message"
  | startUp process root =>
    "Initialize from process " ++ Text.optional (process.map fun n => toString n.toNat) ++
      " for " ++ Text.optional (root.map Text.quoted)
  | requestFailed id method failure => s!"Request {id} '{method}' failed: {failure.text}"
  | notificationFailed method failure => s!"Notification '{method}' failed: {failure.text}"
  | requestRejected id failure => s!"Rejecting request {id}: {failure.message}"
  | payloadDropped failure => s!"Dropping unparseable payload: {failure.message}"
  | droppedText raw => s!"Dropped payload: {raw}"
  | flushing => "Flushing outbox"
  | responseWithoutId => "Received response without id"
  | responseUnknown id => s!"Received response for unknown request ID: {id}"
  | answeredServerError id error => s!"Request {id} failed with server error: {error.text}"
  | answeredError id error => s!"Request {id} failed: {error.text}"
  | answered id => s!"Completing request {id}"
  | lineRejected line failure => s!"Line {line} rejected: {failure.text}"
  | timing => "Performance timing"
  | replayed lines rejected written =>
    s!"Replayed {lines} lines ({rejected} rejected), wrote {written} messages"
  | replaying source => s!"Replaying {source}"
  | linesRejected rejected lines => s!"{rejected} of {lines} lines rejected"

/-- The name of the part of the program that logs an event. -/
def part : Event → String
  | incoming _ | requestFailed _ _ _ | notificationFailed _ _ | requestRejected _ _
  | payloadDropped _ | droppedText _ => "lsp_server_core::lsp::dispatch"
  | startUp _ _ => "lsp_server_core::lsp::server"
  | flushing | responseWithoutId | responseUnknown _ | answeredServerError _ _ | answeredError _ _
  | answered _ => "lsp_server_core::lsp::interface"
  | lineRejected _ _ | timing | replayed _ _ _ => "lsp_server_core::replay"
  | replaying _ | linesRejected _ _ => "lsp_replay"

/-- The names of the fields of an event. -/
def fieldNames : Event → List String
  | incoming _ => ["message", "direction", "method", "data", "pid"]
  | timing => ["message", "operation", "duration_ms", "pid"]
  | _ => ["message"]

/-- The direction and the label of a message that is logged. -/
def traffic? : Event → Option (String × String)
  | incoming label => some ("incoming", label)
  | _ => none

end Event

end LanguageServer.Log
