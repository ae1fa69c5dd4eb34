import LanguageServer.Proofs.Outbox
import Mathlib.Data.List.Induction

/-! What goes in comes out once, in order. The operations of an outbox, what can be seen of each, and runs
    of them. Of every kind of message, what an operation delivers and then leaves queued is what was queued
    before and what the operation pushed (`Conserved`). So over a whole run what was delivered, followed by
    what is still queued, is what was pushed, in the order of pushing, and no message is lost or delivered
    twice (`watch_fifo`). -/

namespace LanguageServer

/-- The response in a message. -/
@[simp]
def Message.response? : Message → Option Response
  | response r => some r
  | _ => none

/-- The notification in a message. -/
@[simp]
def Message.notification? : Message → Option Notification
  | notification n => some n
  | _ => none

/-- The request in a message. -/
@[simp]
def Message.request? : Message → Option Request
  | request r => some r
  | _ => none

namespace Outbox

variable {ρ : Type}

/-- What is done with an outbox. -/
inductive Operation (ρ : Type) where
  | pushResponse (r : Response)
  | pushNotification (n : Notification)
  | pushRequest (method : String) (params : Option Json) (callback : Callback ρ)
  | flush
  | handle (r : Response)

namespace Operation

/-- The outbox after an operation. -/
@[simp]
def apply (o : Outbox ρ) : Operation ρ → Outbox ρ
  | pushResponse r => o.pushResponse r
  | pushNotification n => o.pushNotification n
  | pushRequest method params callback => (o.pushRequest method params callback).2
  | flush => o.flush.2
  | handle r => (o.handle r).2

/-- The messages that an operation pushes. A request carries the id that is returned for it. -/
@[simp]
def pushes (o : Outbox ρ) : Operation ρ → List Message
  | pushResponse r => [.response r]
  | pushNotification n => [.notification n]
  | pushRequest method params callback =>
    [.request { id := (o.pushRequest method params callback).1, method, params }]
  | flush | handle _ => []

/-- The messages that an operation delivers. -/
@[simp]
def delivers (o : Outbox ρ) : Operation ρ → List Message
  | flush => o.flush.1
  | _ => []

/-- The requests that an operation pushes: the id that is returned, and the callback. -/
@[simp]
def asks (o : Outbox ρ) : Operation ρ → List (RequestId × Callback ρ)
  | pushRequest method params callback => [((o.pushRequest method params callback).1, callback)]
  | _ => []

/-- The responses that an operation takes, each with what the callback gives for it. -/
@[simp]
def takes (o : Outbox ρ) : Operation ρ → List (Response × ρ)
  | handle r => ((o.handle r).1.map (r, ·)).toList
  | _ => []

end Operation

/-- An outbox with what was pushed and what was delivered since it was empty, the first message first. -/
structure Watched (ρ : Type) where
  outbox : Outbox ρ := .empty
  pushed : List Message := []
  delivered : List Message := []

/-- An operation on an outbox that is watched. -/
def Watched.step (w : Watched ρ) (op : Operation ρ) : Watched ρ where
  outbox := op.apply w.outbox
  pushed := w.pushed ++ op.pushes w.outbox
  delivered := w.delivered ++ op.delivers w.outbox

/-- A run of operations from the empty outbox on. -/
def watch (ops : List (Operation ρ)) : Watched ρ := ops.foldl Watched.step {}

theorem watch_append_singleton (ops : List (Operation ρ)) (op : Operation ρ) :
    watch (ops ++ [op]) = (watch ops).step op := by
  rw [watch, List.foldl_append]
  rfl

/-! ### Conservation -/

/-- The messages that the function picks out stand in the queue from when they are pushed until they are
    delivered, and they leave it in the order in which they came. -/
structure Conserved {α : Type} (pick : Message → Option α) (queue : Outbox ρ → List α) : Prop where
  start : queue .empty = []
  step : ∀ (o : Outbox ρ) (op : Operation ρ),
    (op.delivers o).filterMap pick ++ queue (op.apply o) = queue o ++ (op.pushes o).filterMap pick

theorem responses_of_queued (o : Outbox ρ) : o.queued.filterMap Message.response? = o.responses := by
  simp [queued, Function.comp_def]

theorem notifications_of_queued (o : Outbox ρ) :
    o.queued.filterMap Message.notification? = o.notifications := by
  simp [queued, Function.comp_def]

theorem requests_of_queued (o : Outbox ρ) : o.queued.filterMap Message.request? = o.requests := by
  simp [queued, Function.comp_def]

/-- A response that is taken changes no queue. -/
theorem handle_queues (o : Outbox ρ) (r : Response) :
    (o.handle r).2.responses = o.responses ∧ (o.handle r).2.notifications = o.notifications ∧
      (o.handle r).2.requests = o.requests := by
  have h : o.Answers (o.handle r).2 [] := answers_handle
  exact ⟨h.responses.trans (List.append_nil _), h.notifications, h.requests⟩

theorem conserved_responses :
    Conserved Message.response? (responses : Outbox ρ → List Response) where
  start := rfl
  step o op := by
    cases op with
    | flush => simp [flush_eq, responses_of_queued]
    | handle r => simp [handle_queues]
    | _ => simp [pushResponse, pushNotification, pushRequest]

theorem conserved_notifications :
    Conserved Message.notification? (notifications : Outbox ρ → List Notification) where
  start := rfl
  step o op := by
    cases op with
    | flush => simp [flush_eq, notifications_of_queued]
    | handle r => simp [handle_queues]
    | _ => simp [pushResponse, pushNotification, pushRequest]

theorem conserved_requests :
    Conserved Message.request? (requests : Outbox ρ → List Request) where
  start := rfl
  step o op := by
    cases op with
    | flush => simp [flush_eq, requests_of_queued]
    | handle r => simp [handle_queues]
    | _ => simp [pushResponse, pushNotification, pushRequest]

theorem Conserved.watch {α : Type} {pick : Message → Option α} {queue : Outbox ρ → List α}
    (h : Conserved pick queue) (ops : List (Operation ρ)) :
    (watch ops).delivered.filterMap pick ++ queue (watch ops).outbox =
      (watch ops).pushed.filterMap pick := by
  induction ops using List.reverseRecOn with
  | nil => exact h.start
  | append_singleton ops op ih =>
    rw [watch_append_singleton]
    generalize Outbox.watch ops = w at ih
    calc
      (w.delivered ++ op.delivers w.outbox).filterMap pick ++ queue (op.apply w.outbox)
        = w.delivered.filterMap pick ++
            ((op.delivers w.outbox).filterMap pick ++ queue (op.apply w.outbox)) := by
          rw [List.filterMap_append, List.append_assoc]
      _ = w.delivered.filterMap pick ++ (queue w.outbox ++ (op.pushes w.outbox).filterMap pick) := by
          rw [h.step]
      _ = (w.pushed ++ op.pushes w.outbox).filterMap pick := by
          rw [← List.append_assoc, ih, List.filterMap_append]

/-- Of every run from the empty outbox on, up to any point of it: what was delivered of a kind, followed by
    what is queued of it, is what was pushed of it, in the order of pushing. And to deliver then gives the
    sink the queued responses, then the notifications, then the requests, tells how many these are, and
    leaves nothing queued, the callbacks waiting and the count of ids as it was. -/
theorem watch_fifo (ops : List (Operation ρ)) :
    let w := watch ops
    let messages : List Message := w.outbox.responses.map .response ++
      w.outbox.notifications.map .notification ++ w.outbox.requests.map .request
    (w.delivered.filterMap Message.response? ++ w.outbox.responses =
        w.pushed.filterMap Message.response? ∧
      w.delivered.filterMap Message.notification? ++ w.outbox.notifications =
        w.pushed.filterMap Message.notification? ∧
      w.delivered.filterMap Message.request? ++ w.outbox.requests =
        w.pushed.filterMap Message.request?) ∧
    ∃ o : Outbox ρ, o.isEmpty = true ∧ o.pending = w.outbox.pending ∧ o.next = w.outbox.next ∧
      w.outbox.flush = (messages, o) ∧
      ∀ {κ : Type} (sink : κ → Message → κ) (k : κ),
        w.outbox.deliver sink k = (messages.length, messages.foldl sink k, o) := by
  intro w messages
  constructor
  · exact ⟨conserved_responses.watch ops, conserved_notifications.watch ops, conserved_requests.watch ops⟩
  · let o : Outbox ρ := { w.outbox with responses := [], notifications := [], requests := [] }
    have hflush : w.outbox.flush = (messages, o) := flush_eq
    exact ⟨o, rfl, rfl, rfl, hflush, fun sink k => deliver_eq⟩

end Outbox

end LanguageServer
