import LanguageServer.Proofs.Dispatch.Answers
import LanguageServer.Proofs.Server.Recorder
import Mathlib.Data.List.Induction

/-! Sessions of the server that records. What a session leaves in the record is told by the calls that its
    payloads make (`Call.ofText?`), and by nothing else: the names of the methods, the ids that were
    cancelled and the texts of the open documents, of the calls that are not to fail (`session_follows`).
    One payload leaves the record as the one call does that it makes, or as it was, and the rest is an
    induction on the payloads. -/

namespace LanguageServer

variable {ρ : Type}

/-! ### The memory after a payload -/

namespace Server.Recorder

variable {p : Peer Record ρ}

/-- The record after a call, if there is one. -/
def after (r : Record) (c : Option Call) : Record := c.elim r r.hear

theorem after_filter (r : Record) (c : Call) :
    after r ((some c).filter Call.isValid) = if c.isValid then r.hear c else r := by
  rw [Option.filter_some]
  split <;> rfl

theorem memory_request (r : Request) :
    (r.process .recorder p).peer.memory = after p.memory (Call.ofMessage? (.request r)) := by
  rw [Request.process_memory, Server.requestHandler, Call.ofMessage?]
  cases RequestMethod.ofName? r.method with
  | none => rfl
  | some m =>
    rw [Option.map_some, after_filter]
    exact memory_answer r m _

theorem memory_notification (n : Notification) :
    (n.process .recorder p).peer.memory = after p.memory (Call.ofMessage? (.notification n)) := by
  rw [Notification.process_memory, Server.notificationHandler, Call.ofMessage?]
  cases NotificationMethod.ofName? n.method with
  | none => rfl
  | some m =>
    rw [Option.map_some, after_filter]
    exact memory_notice n m _

/-- A payload leaves the record as the call does that it makes. -/
theorem memory_dispatch (raw : String) (p : Peer Record ρ) :
    (dispatch raw .recorder p).2.peer.memory = after p.memory (Call.ofText? raw) := by
  rw [Call.ofText?]
  cases h : Message.parse raw with
  | error fault =>
    rw [dispatch_of_error h, refuse_memory]
    rfl
  | ok m =>
    rw [dispatch_of_ok h]
    cases m with
    | request r => exact memory_request r
    | notification n => exact memory_notification n
    | response r => rfl

end Server.Recorder

/-! ### The record after calls -/

section Calls

variable (failures : List (String × Exception))

/-- The calls of the methods that do not fail. -/
def Call.done (calls : List Call) : List Call :=
  calls.filter fun c => (Record.failure? { failures } c.name).isNone

/-- The ids that calls cancel. -/
def Call.cancelled (calls : List Call) : List String := calls.filterMap Call.cancelled?

/-- The open documents after calls. -/
def Call.documents (calls : List Call) : String → Option String := calls.foldl Call.edit fun _ => none

variable {failures} {calls : List Call} {c : Call}

theorem Call.done_concat_of_some {e : Exception} (h : Record.failure? { failures } c.name = some e) :
    Call.done failures (calls ++ [c]) = Call.done failures calls := by
  rw [done, List.filter_append, List.filter_cons_of_neg (by simp [h]), List.filter_nil, List.append_nil]
  rfl

theorem Call.done_concat_of_none (h : Record.failure? { failures } c.name = none) :
    Call.done failures (calls ++ [c]) = Call.done failures calls ++ [c] := by
  rw [done, List.filter_append, List.filter_cons_of_pos (by simp [h]), List.filter_nil]
  rfl

theorem Call.cancelled_concat :
    Call.cancelled (calls ++ [c]) = Call.cancelled calls ++ c.cancelled?.toList := by
  rw [cancelled, List.filterMap_append, List.filterMap_cons]
  cases c.cancelled? <;> rfl

theorem Call.documents_concat : Call.documents (calls ++ [c]) = c.edit (Call.documents calls) := by
  rw [documents, List.foldl_append]
  rfl

end Calls

/-- What a record holds after calls: the names of them all, and what those did whose methods do not fail. -/
structure Record.Follows (r : Record) (failures : List (String × Exception)) (calls : List Call) : Prop where
  names : r.calls = calls.map Call.name
  cancelled : r.cancelled = Call.cancelled (Call.done failures calls)
  documents : r.document? = Call.documents (Call.done failures calls)
  table : r.failures = failures

namespace Record.Follows

variable {r : Record} {failures : List (String × Exception)} {calls : List Call}

theorem fresh (failures : List (String × Exception)) : Follows { failures } failures [] :=
  ⟨rfl, rfl, rfl, rfl⟩

theorem hear (h : r.Follows failures calls) (c : Call) : (r.hear c).Follows failures (calls ++ [c]) := by
  have hnames : (r.called c.name).calls = (calls ++ [c]).map Call.name := by
    rw [called, h.names, List.map_append]
    rfl
  have htable : r.failure? c.name = Record.failure? { failures } c.name := by
    rw [failure?, h.table]
    rfl
  rw [Record.hear, htable]
  cases hc : Record.failure? { failures } c.name with
  | some e =>
    have hdone : Call.done failures (calls ++ [c]) = Call.done failures calls :=
      Call.done_concat_of_some hc
    exact ⟨hnames, hdone ▸ h.cancelled, hdone ▸ h.documents, h.table⟩
  | none =>
    obtain ⟨hdocuments, hcalls, hcancelled, hfailures⟩ := foldl_edited c.edits
      { r.called c.name with cancelled := r.cancelled ++ c.cancelled?.toList }
    refine ⟨hcalls.trans hnames, hcancelled.trans ?_, hdocuments.trans ?_, hfailures.trans h.table⟩
    · rw [Call.done_concat_of_none hc, Call.cancelled_concat, ← h.cancelled]
    · rw [Call.done_concat_of_none hc, Call.documents_concat, ← h.documents]
      rfl

theorem after (h : r.Follows failures calls) (c : Option Call) :
    (Server.Recorder.after r c).Follows failures (calls ++ c.toList) := by
  cases c with
  | none => exact (List.append_nil calls).symm ▸ h
  | some c => exact h.hear c

end Record.Follows

/-! ### The record after payloads -/

namespace Server.Recorder

/-- The peer after payloads came in one after the other. -/
def session (p : Peer Record ρ) (raws : List String) : Peer Record ρ :=
  raws.foldl (fun p raw => (dispatch raw .recorder p).2.peer) p

theorem session_concat (p : Peer Record ρ) (raws : List String) (raw : String) :
    session p (raws ++ [raw]) = (dispatch raw .recorder (session p raws)).2.peer := by
  rw [session, List.foldl_append]
  rfl

theorem follows_session (failures : List (String × Exception)) (outbox : Outbox ρ) (raws : List String) :
    (session ⟨{ failures }, outbox⟩ raws).memory.Follows failures (raws.filterMap Call.ofText?) := by
  induction raws using List.reverseRecOn with
  | nil => exact .fresh failures
  | append_singleton raws raw ih =>
    -- The last payload makes one call more, or none.
    have hcalls : (raws ++ [raw]).filterMap Call.ofText? =
        raws.filterMap Call.ofText? ++ (Call.ofText? raw).toList := by
      rw [List.filterMap_append, List.filterMap_cons]
      cases Call.ofText? raw <;> rfl
    rw [session_concat, memory_dispatch, hcalls]
    exact ih.after (Call.ofText? raw)

/-- Of every table of failures and every session of a fresh server: the methods that were called are those
    of the calls that the payloads make, in their order; the ids and the texts of documents are what these
    calls ask for, but for the calls that fail; and a payload that makes no call changes nothing. -/
theorem session_follows (failures : List (String × Exception)) (outbox : Outbox ρ) (raws : List String) :
    let p := session ⟨{ failures }, outbox⟩ raws
    let calls := raws.filterMap Call.ofText?
    let done := calls.filter fun c => (Record.failure? { failures } c.name).isNone
    p.memory.calls = calls.map Call.name ∧
      p.memory.cancelled = done.filterMap Call.cancelled? ∧
      (∀ uri, p.memory.document? uri = done.foldl Call.edit (fun _ => none) uri) ∧
      ∀ raw, Call.ofText? raw = none → (dispatch raw .recorder p).2.peer.memory = p.memory := by
  intro p calls done
  have h : p.memory.Follows failures calls := follows_session failures outbox raws
  refine ⟨h.names, h.cancelled, fun uri => congrFun h.documents uri, fun raw hraw => ?_⟩
  rw [memory_dispatch, hraw]
  rfl

/-- A request is cancelled, and a text that is no message comes in. -/
theorem session_follows_cancel :
    let cancel := "\x7b\"jsonrpc\":\"2.0\",\"method\":\"$/cancelRequest\",\"params\":\x7b\"id\":7\x7d\x7d"
    let p : Peer Record Empty := session ⟨.empty, .empty⟩ [cancel]
    p.memory.calls = ["$/cancelRequest"] ∧ p.memory.cancelled = ["7"] ∧ Call.ofText? "7" = none ∧
      (dispatch "7" .recorder p).2.peer.memory = p.memory := by
  intro cancel p
  obtain ⟨hcalls, hcancelled, -, hother⟩ := session_follows [] (.empty : Outbox Empty) [cancel]
  have hnone : Call.ofText? "7" = none := Option.isNone_iff_eq_none.mp (by decide +kernel)
  have hnames : ([cancel].filterMap Call.ofText?).map Call.name = ["$/cancelRequest"] := by decide +kernel
  have hids : (([cancel].filterMap Call.ofText?).filter fun c =>
      (Record.failure? { failures := [] } c.name).isNone).filterMap Call.cancelled? = ["7"] := by
    decide +kernel
  exact ⟨hcalls.trans hnames, hcancelled.trans hids, hnone, hother "7" hnone⟩

end Server.Recorder

end LanguageServer
