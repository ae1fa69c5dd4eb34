import LanguageServer.Proofs.Dispatch.Answers
import LanguageServer.Proofs.Server.Call

/-! How a payload ends. What a server makes of a request or of a notification is told by a table. A method
    that it does not have is not found; params that do not have the form of the method are a parse error,
    and then no handler runs; a handler that fails gives the error as it is, and one that does not gives the
    result. The first of these that applies is what is answered, but a notification that succeeds is not
    answered, and one that fails is under no id. A payload that is no message is a parse error as well
    (`dispatch_outcome`). -/

namespace LanguageServer

variable {σ ρ : Type} {r : Request} {n : Notification} {s : Server σ} {p : Peer σ ρ} {raw : String}

/-! ### Methods by their names -/

theorem RequestMethod.ofName?_of_unknown {name : String} (h : ∀ m : RequestMethod, m.name ≠ name) :
    ofName? name = none :=
  List.find?_eq_none.mpr fun m _ hm => h m (by simpa using hm)

theorem NotificationMethod.ofName?_of_unknown {name : String} (h : ∀ m : NotificationMethod, m.name ≠ name) :
    ofName? name = none :=
  List.find?_eq_none.mpr fun m _ hm => h m (by simpa using hm)

/-! ### Handlers on params that were read -/

/-- Runs the handler of a request on its params; what the handler gives is written as JSON. -/
def Server.serve (s : Server σ) : (m : RequestMethod) → m.form.Value → Handler σ Json
  | .startUp, x => Content.toJson <$> s.startUp (Content.unpack x)
  | .shutdown, _ => (fun _ => .null) <$> s.shutdown
  | .executeCommand, x => s.executeCommand (Content.unpack x)
  | .hover, x => Content.toJson <$> s.hover (Content.unpack x)
  | .definition, x => Content.toJson <$> s.definition (Content.unpack x)
  | .codeAction, x => Content.toJson <$> s.codeAction (Content.unpack x)
  | .codeLens, x => Content.toJson <$> s.codeLens (Content.unpack x)

/-- Runs the handler of a notification on its params. -/
def Server.heed (s : Server σ) : (m : NotificationMethod) → m.form.Value → Handler σ Unit
  | .startedUp, _ => s.startedUp
  | .exit, _ => s.exit
  | .cancelRequest, x => s.cancelRequest (Content.unpack x)
  | .didChangeConfiguration, x => s.didChangeConfiguration (Content.unpack x)
  | .didOpen, x => s.didOpen (Content.unpack x)
  | .didChange, x => s.didChange (Content.unpack x)
  | .didSave, x => s.didSave (Content.unpack x)
  | .didClose, x => s.didClose (Content.unpack x)

theorem Handler.withParams_read {α β : Type} [Content α] (v : Json) (h : α → Handler σ β) :
    withParams (Content.read α v) h =
      withParams ((Content.schema α).read v) fun x => h (Content.unpack x) := by
  unfold Content.read
  cases (Content.schema α).read v <;> rfl

theorem Server.answer_eq (s : Server σ) (r : Request) (m : RequestMethod) :
    s.answer r m = .withParams (m.form.read (r.params.getD .null)) (s.serve m) := by
  cases m with
  | shutdown => rfl
  | startUp | executeCommand | hover | definition | codeAction | codeLens => exact Handler.withParams_read _ _

theorem Server.notice_eq (s : Server σ) (n : Notification) (m : NotificationMethod) :
    s.notice n m = .withParams (m.form.read (n.params.getD .null)) (s.heed m) := by
  cases m with
  | startedUp | exit => rfl
  | cancelRequest | didChangeConfiguration | didOpen | didChange | didSave | didClose =>
    exact Handler.withParams_read _ _

/-! ### Params -/

theorem RequestMethod.wellFormed (m : RequestMethod) : m.form.isWellFormed = true := by
  cases m <;> decide

theorem NotificationMethod.wellFormed (m : NotificationMethod) : m.form.isWellFormed = true := by
  cases m <;> decide

theorem Schema.read_of_fault? {form : Schema} {v : Json} {fault : Fault} (h : form.fault? v = some fault) :
    form.read v = .error fault := by
  rw [read, h]

theorem Schema.exists_read {form : Schema} {v : Json} (wf : form.isWellFormed = true)
    (h : form.fault? v = none) : ∃ x, form.decode? v = some x ∧ form.read v = .ok x := by
  obtain ⟨x, hx⟩ := form.exists_decode?_of_conforms wf v ((form.fault?_eq_none_iff wf v).mp h)
  exact ⟨x, hx, by simp only [read, h, hx]⟩

/-! ### Requests -/

namespace Request

/-- A request fails: the error has the code, the message and the data of the failure. -/
def fails (r : Request) (p : Peer σ ρ) (e : Exception) (j : Journal σ) : Effect σ ρ where
  peer := ⟨j.memory, p.outbox.pushResponse
    { id := some r.id, outcome := some (.error { code := e.code.code, message := e.message, data := e.data }) }⟩
  events := j.events ++ [.requestFailed r.id.text r.method e]
  answer := none

/-- A request succeeds: the answer has the result, and no error. -/
def succeeds (r : Request) (p : Peer σ ρ) (result : Json) (j : Journal σ) : Effect σ ρ where
  peer := ⟨j.memory, p.outbox.pushResponse { id := some r.id, outcome := some (.result result) }⟩
  events := j.events
  answer := none

/-- What a request leads to. Unless its handler runs, the server has no part in it. -/
structure Ends (r : Request) (s : Server σ) (p : Peer σ ρ) (effect : Effect σ ρ) : Prop where
  notFound : (∀ m : RequestMethod, m.name ≠ r.method) →
    effect = r.fails p
      ⟨.methodNotFound, "request method '" ++ r.method ++ "' not specified in interface implementation", none⟩
      ⟨p.memory, [.incoming r.method]⟩
  unread : ∀ (m : RequestMethod) (fault : Fault), m.name = r.method →
    m.form.fault? (r.params.getD .null) = some fault →
    effect = r.fails p ⟨.parseError, "parse error: '" ++ fault.message ++ "'", none⟩
      ⟨p.memory, [.incoming r.method]⟩
  served : ∀ m : RequestMethod, m.name = r.method → m.form.fault? (r.params.getD .null) = none →
    ∃ x, m.form.decode? (r.params.getD .null) = some x ∧
      effect =
        match (s.serve m x).start ⟨p.memory, [.incoming r.method]⟩ with
        | (.error e, j) => r.fails p e j
        | (.ok result, j) => r.succeeds p result j

theorem process_eq (r : Request) (s : Server σ) (p : Peer σ ρ) :
    r.process s p =
      match (s.requestHandler r).start ⟨p.memory, [.incoming r.method]⟩ with
      | (.error e, j) => r.fails p e j
      | (.ok result, j) => r.succeeds p result j := by
  unfold process
  split <;> (rename_i h; rw [h]; rfl)

theorem requestHandler_of_name {m : RequestMethod} (h : m.name = r.method) :
    s.requestHandler r = .withParams (m.form.read (r.params.getD .null)) (s.serve m) := by
  rw [Server.requestHandler, ← h, RequestMethod.ofName?_name]
  exact s.answer_eq r m

theorem process_ends (r : Request) (s : Server σ) (p : Peer σ ρ) : r.Ends s p (r.process s p) where
  notFound h := by
    rw [process_eq, Server.requestHandler, RequestMethod.ofName?_of_unknown h]
    rfl
  unread m fault h hfault := by
    rw [process_eq, requestHandler_of_name h, Schema.read_of_fault? hfault]
    rfl
  served m h hfault := by
    obtain ⟨x, hx, hread⟩ := Schema.exists_read m.wellFormed hfault
    refine ⟨x, hx, ?_⟩
    rw [process_eq, requestHandler_of_name h, hread]
    rfl

end Request

/-! ### Notifications -/

namespace Notification

/-- A notification fails: it is answered under no id, with the code, the message and the data of the
    failure. -/
def fails (n : Notification) (p : Peer σ ρ) (e : Exception) (j : Journal σ) : Effect σ ρ where
  peer := ⟨j.memory, p.outbox.pushResponse
    { id := none, outcome := some (.error { code := e.code.code, message := e.message, data := e.data }) }⟩
  events := j.events ++ [.notificationFailed n.method e]
  answer := none

/-- A notification succeeds, and nothing is queued. -/
def succeeds (p : Peer σ ρ) (j : Journal σ) : Effect σ ρ where
  peer := ⟨j.memory, p.outbox⟩
  events := j.events
  answer := none

/-- What a notification leads to. Unless its handler runs, the server has no part in it. -/
structure Ends (n : Notification) (s : Server σ) (p : Peer σ ρ) (effect : Effect σ ρ) : Prop where
  notFound : (∀ m : NotificationMethod, m.name ≠ n.method) →
    effect = n.fails p
      ⟨.methodNotFound, "notification method '" ++ n.method ++ "' not specified in interface implementation", none⟩
      ⟨p.memory, [.incoming n.method]⟩
  unread : ∀ (m : NotificationMethod) (fault : Fault), m.name = n.method →
    m.form.fault? (n.params.getD .null) = some fault →
    effect = n.fails p ⟨.parseError, "parse error: '" ++ fault.message ++ "'", none⟩
      ⟨p.memory, [.incoming n.method]⟩
  heeded : ∀ m : NotificationMethod, m.name = n.method → m.form.fault? (n.params.getD .null) = none →
    ∃ x, m.form.decode? (n.params.getD .null) = some x ∧
      effect =
        match (s.heed m x).start ⟨p.memory, [.incoming n.method]⟩ with
        | (.error e, j) => n.fails p e j
        | (.ok (), j) => succeeds p j

theorem process_eq (n : Notification) (s : Server σ) (p : Peer σ ρ) :
    n.process s p =
      match (s.notificationHandler n).start ⟨p.memory, [.incoming n.method]⟩ with
      | (.error e, j) => n.fails p e j
      | (.ok (), j) => succeeds p j := by
  unfold process
  split <;> (rename_i h; rw [h]; rfl)

theorem notificationHandler_of_name {m : NotificationMethod} (h : m.name = n.method) :
    s.notificationHandler n = .withParams (m.form.read (n.params.getD .null)) (s.heed m) := by
  rw [Server.notificationHandler, ← h, NotificationMethod.ofName?_name]
  exact s.notice_eq n m

theorem process_ends (n : Notification) (s : Server σ) (p : Peer σ ρ) : n.Ends s p (n.process s p) where
  notFound h := by
    rw [process_eq, Server.notificationHandler, NotificationMethod.ofName?_of_unknown h]
    rfl
  unread m fault h hfault := by
    rw [process_eq, notificationHandler_of_name h, Schema.read_of_fault? hfault]
    rfl
  heeded m h hfault := by
    obtain ⟨x, hx, hread⟩ := Schema.exists_read m.wellFormed hfault
    refine ⟨x, hx, ?_⟩
    rw [process_eq, notificationHandler_of_name h, hread]
    rfl

end Notification

/-! ### Payloads that are no messages -/

theorem refuse_peer (raw : String) (fault : Fault) (p : Peer σ ρ) :
    (refuse raw (.ofFault fault) p).peer =
      match recoverId? raw with
      | some id => ⟨p.memory, p.outbox.pushResponse
          { id := some id,
            outcome := some (.error { code := -32700, message := "parse error: '" ++ fault.message ++ "'" }) }⟩
      | none => p := by
  unfold refuse
  cases recoverId? raw <;> rfl

/-- Of every text, every server and every peer. A request or a notification ends as its table tells, and
    what is no message is returned as a parse error with the wording of what is wrong with it; if it is
    answered, then with this error. -/
theorem dispatch_outcome (raw : String) (s : Server σ) (p : Peer σ ρ) :
    (∀ r, Message.parse raw = .ok (.request r) →
      (dispatch raw s p).1 = .ok .request ∧ r.Ends s p (dispatch raw s p).2) ∧
    (∀ n, Message.parse raw = .ok (.notification n) →
      (dispatch raw s p).1 = .ok .notification ∧ n.Ends s p (dispatch raw s p).2) ∧
    ∀ fault, Message.parse raw = .error fault →
      (dispatch raw s p).1 = .error ⟨.parseError, "parse error: '" ++ fault.message ++ "'", none⟩ ∧
      (dispatch raw s p).2.peer =
        match recoverId? raw with
        | some id => ⟨p.memory, p.outbox.pushResponse
            { id := some id,
              outcome := some (.error { code := -32700, message := "parse error: '" ++ fault.message ++ "'" }) }⟩
        | none => p := by
  refine ⟨fun r h => ?_, fun n h => ?_, fun fault h => ?_⟩
  · rw [dispatch, h]
    exact ⟨rfl, r.process_ends s p⟩
  · rw [dispatch, h]
    exact ⟨rfl, n.process_ends s p⟩
  · rw [dispatch, h]
    exact ⟨rfl, refuse_peer raw fault p⟩

end LanguageServer
