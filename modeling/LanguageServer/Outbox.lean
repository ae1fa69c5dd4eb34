import LanguageServer.Log.Event
import LanguageServer.Message

/-! The outbox: what a server has to send, and who waits for the answers to its requests. There is a queue
    for each kind of message, first in, first out. A request gets the next id, counted from zero, and its
    callback waits under the text of that id until the answer comes; the answer takes the callback out, so
    it is called once. A callback is a function of the answer and does not itself use the outbox; `ρ` is
    what callbacks give. -/

namespace LanguageServer

/-- What is done with the answer to a request. -/
abbrev Callback (ρ : Type) := Response → ρ

/-- The answer to a request as its callback takes it: the error of the client, the result as an interface,
    or an error because the result does not have the form of the interface. -/
def Response.outcomeAs (α : Type) [Content α] (r : Response) : Except ResponseError α :=
  match r.error? with
  | some e => .error e
  | none =>
    match r.resultAs α with
    | .ok x => .ok x
    | .error fault => .error (.ofException (.ofFault fault))

/-- A callback that takes the answer as an interface. -/
def Callback.typed {ρ : Type} (α : Type) [Content α] (f : Except ResponseError α → ρ) :
    Callback ρ :=
  fun r => f (r.outcomeAs α)

/-- The messages to send, and the callbacks that wait. -/
structure Outbox (ρ : Type) where
  responses : List Response := []
  notifications : List Notification := []
  requests : List Request := []
  /-- The number of the next request. -/
  next : UInt64 := 0
  /-- The callbacks by the texts of the ids of their requests, the longest waiting first. -/
  pending : List (String × Callback ρ) := []

namespace Outbox

variable {ρ : Type}

/-- An outbox that has sent nothing yet. -/
def empty : Outbox ρ := {}

/-- Queues a response. -/
def pushResponse (o : Outbox ρ) (r : Response) : Outbox ρ :=
  { o with responses := o.responses ++ [r] }

/-- Queues a notification. -/
def pushNotification (o : Outbox ρ) (n : Notification) : Outbox ρ :=
  { o with notifications := o.notifications ++ [n] }

/-- The id of the next request; the count goes on below zero when a signed word ends. -/
def nextId (o : Outbox ρ) : RequestId := .number o.next.toInt64

/-- Queues a request under the next id. -/
def pushRequest (o : Outbox ρ) (method : String) (params : Option Json) (callback : Callback ρ) :
    RequestId × Outbox ρ :=
  let id := o.nextId
  (id,
    { o with
      requests := o.requests ++ [{ id, method, params }]
      next := o.next + 1
      pending := o.pending.filter (fun w => w.1 ≠ id.text) ++ [(id.text, callback)] })

/-- Nothing is queued. -/
def isEmpty (o : Outbox ρ) : Bool :=
  o.responses.isEmpty && o.notifications.isEmpty && o.requests.isEmpty

/-- How many messages are queued. -/
def size (o : Outbox ρ) : Nat :=
  o.responses.length + o.notifications.length + o.requests.length

/-- Everything queued: responses, then notifications, then requests. -/
def queued (o : Outbox ρ) : List Message :=
  o.responses.map .response ++ o.notifications.map .notification ++ o.requests.map .request

/-- Takes everything out that is queued and gives it to a sink, message by message: responses, then
    notifications, then requests. Tells how many messages there were. -/
def deliver {κ : Type} (o : Outbox ρ) (sink : κ → Message → κ) (k : κ) : Nat × κ × Outbox ρ :=
  let k := o.responses.foldl (fun k r => sink k (.response r)) k
  let k := o.notifications.foldl (fun k n => sink k (.notification n)) k
  let k := o.requests.foldl (fun k r => sink k (.request r)) k
  (o.size, k, { o with responses := [], notifications := [], requests := [] })

/-- Takes everything out that is queued. -/
def flush (o : Outbox ρ) : List Message × Outbox ρ :=
  (o.deliver (fun messages m => messages ++ [m]) []).2

/-- What a flush logs. -/
def flushEvents (o : Outbox ρ) : List Log.Event := if 0 < o.size then [.flushing] else []

/-- The callback that waits under a text. -/
def waiting? (o : Outbox ρ) (id : String) : Option (Callback ρ) :=
  (o.pending.find? (·.1 = id)).map (·.2)

/-- Gives a response to the callback that waits for it, which then waits no more. -/
def handle (o : Outbox ρ) (r : Response) : Option ρ × Outbox ρ :=
  match r.idText? with
  | none => (none, o)
  | some id =>
    match o.waiting? id with
    | none => (none, o)
    | some callback =>
      (some (callback r), { o with pending := o.pending.filter (fun w => w.1 ≠ id) })

/-- What is logged about a response. -/
def handleEvents (o : Outbox ρ) (r : Response) : List Log.Event :=
  match r.idText? with
  | none => [.responseWithoutId]
  | some id =>
    match o.waiting? id, r.error? with
    | none, _ => [.responseUnknown id]
    | some _, none => [.answered id]
    | some _, some e =>
      if e.isServerError then [.answeredServerError id e] else [.answeredError id e]

/-- How many messages of each kind are queued, and how many callbacks wait. -/
def summary (o : Outbox ρ) : String :=
  "Outbox \x7b responses: " ++ toString o.responses.length ++ ", notifications: " ++
    toString o.notifications.length ++ ", requests: " ++ toString o.requests.length ++
    ", pending: " ++ toString o.pending.length ++ " \x7d"

end Outbox

end LanguageServer
