import LanguageServer.Dispatch
import LanguageServer.Outbound
import LanguageServer.Proofs.Message.Writing
import LanguageServer.Proofs.Schema.RoundTrip

/-! What is sent as an interface arrives as that interface. The params of a method and the result of a
    request are interfaces, and a message carries them as free JSON that has to be an object, or of one of
    three types. Every interface that is sent in a message fits there: whatever was read as the interface
    may be sent, and where the message is read again, the interface is read as it was
    (`Message.delivers`). -/

namespace LanguageServer

open Content

/-- An interface. -/
structure Payload : Type 1 where
  type : Type
  [content : Content type]

attribute [instance] Payload.content

/-- The params that the handler of a request takes. -/
def RequestMethod.params? : RequestMethod → Option Payload
  | .startUp => some ⟨InitializeParams⟩
  | .shutdown => none
  | .executeCommand => some ⟨ExecuteCommandParams⟩
  | .hover => some ⟨TextDocumentPositionParams⟩
  | .definition => some ⟨TextDocumentPositionParams⟩
  | .codeAction => some ⟨CodeActionParams⟩
  | .codeLens => some ⟨CodeLensParams⟩

/-- The params that the handler of a notification takes. -/
def NotificationMethod.params? : NotificationMethod → Option Payload
  | .startedUp => none
  | .exit => none
  | .cancelRequest => some ⟨CancelParams⟩
  | .didChangeConfiguration => some ⟨DidChangeConfigurationParams⟩
  | .didOpen => some ⟨DidOpenTextDocumentParams⟩
  | .didChange => some ⟨DidChangeTextDocumentParams⟩
  | .didSave => some ⟨DidSaveTextDocumentParams⟩
  | .didClose => some ⟨DidCloseTextDocumentParams⟩

/-- The results of requests: those that a server gives, and those that a server asks for. -/
def Payload.results : List Payload :=
  [⟨InitializeResult⟩, ⟨Option HoverResult⟩, ⟨DefinitionResult⟩, ⟨List Command⟩, ⟨List CodeLens⟩,
    ⟨Option MessageActionItem⟩, ⟨ApplyWorkspaceEditResult⟩, ⟨List Json⟩, ⟨Option (List WorkspaceFolder)⟩]

variable {σ ρ : Type} {P : Payload}

/-! ### Interfaces fit into messages -/

theorem RequestMethod.kinds_params {m : RequestMethod} (h : m.params? = some P) :
    (schema P.type).kinds = [.object] := by
  cases m <;> cases h <;> rfl

theorem NotificationMethod.kinds_params {m : NotificationMethod} (h : m.params? = some P) :
    (schema P.type).kinds = [.object] := by
  cases m <;> cases h <;> rfl

theorem Payload.kinds_results (h : P ∈ results) :
    (schema P.type).kinds ⊆ [.object, .array, .null] := by
  simp only [results, List.mem_cons, List.not_mem_nil, or_false] at h
  rcases h with rfl | rfl | rfl | rfl | rfl | rfl | rfl | rfl | rfl <;> decide

/-- What was read as an interface is written as a value in order, of a type that the interface has, and it
    is read again as it was. -/
theorem Content.toJson_sound {α : Type} [Content α] {v : Json} {x : α} (ho : v.Ordered)
    (h : read α v = .ok x) :
    (toJson x).Ordered ∧ (toJson x).kind ∈ (schema α).kinds ∧ read α (toJson x) = .ok x := by
  have hback : read α (toJson x) = .ok x := read_toJson ho h
  refine ⟨Json.ordered_sorted _, ?_, hback⟩
  exact (schema α).kind_mem_of_conforms _ (read_eq_ok_iff.mp hback).1

/-! ### Handlers are given what the tables tell -/

theorem Server.answer_params {m : RequestMethod} (h : m.params? = some P) (s : Server σ) :
    ∃ handler : P.type → Handler σ Json,
      ∀ r : Request, s.answer r m = .withParams (r.paramsAs P.type) handler := by
  cases m <;> cases h <;> exact ⟨_, fun _ => rfl⟩

theorem Server.notice_params {m : NotificationMethod} (h : m.params? = some P) (s : Server σ) :
    ∃ handler : P.type → Handler σ Unit,
      ∀ n : Notification, s.notice n m = .withParams (n.paramsAs P.type) handler := by
  cases m <;> cases h <;> exact ⟨_, fun _ => rfl⟩

namespace Message

/-- A request with params of its method arrives with the params as they were sent. -/
theorem delivers_request {m : RequestMethod} (hm : m.params? = some P) {v : Json} {p : P.type}
    (ho : v.Ordered) (h : read P.type v = .ok p) {id : RequestId} (hid : id.IsAccepted) :
    let r : Request := { id, method := m.name, params := some (Content.toJson p) }
    ofJson (request r).toJson = .ok (request r) ∧ r.paramsAs P.type = .ok p := by
  intro r
  obtain ⟨hordered, hkind, hback⟩ := toJson_sound ho h
  rw [RequestMethod.kinds_params hm] at hkind
  refine ⟨ofJson_of_readable ⟨hid, fun w hw => ?_⟩, hback⟩
  cases hw
  exact ⟨List.mem_singleton.mp hkind, hordered⟩

theorem delivers_notification {m : NotificationMethod} (hm : m.params? = some P) {v : Json} {p : P.type}
    (ho : v.Ordered) (h : read P.type v = .ok p) :
    let n : Notification := { method := m.name, params := some (Content.toJson p) }
    ofJson (notification n).toJson = .ok (notification n) ∧ n.paramsAs P.type = .ok p := by
  intro n
  obtain ⟨hordered, hkind, hback⟩ := toJson_sound ho h
  rw [NotificationMethod.kinds_params hm] at hkind
  refine ⟨ofJson_of_readable fun w hw => ?_, hback⟩
  cases hw
  exact ⟨List.mem_singleton.mp hkind, hordered⟩

/-- An answer with a result arrives with the result as it was sent. -/
theorem delivers_response (hP : P ∈ Payload.results) {v : Json} {x : P.type} (ho : v.Ordered)
    (h : read P.type v = .ok x) {id : Option RequestId} (hid : ∀ i, id = some i → i.IsAccepted) :
    let r := Response.success id (Content.toJson x)
    ofJson (response r).toJson = .ok (response r) ∧ r.resultAs P.type = .ok x := by
  intro r
  obtain ⟨hordered, hkind, hback⟩ := toJson_sound ho h
  have hkind := Payload.kinds_results hP hkind
  refine ⟨ofJson_of_readable ⟨hid, fun o hr => ?_⟩, hback⟩
  cases hr
  refine ⟨?_, hordered⟩
  simpa using hkind

/-- The handler of the method is called with the params that were sent. -/
theorem requestHandler_eq {m : RequestMethod} (hm : m.params? = some P) (s : Server σ) {r : Request}
    {p : P.type} (hr : r.method = m.name) (hp : r.paramsAs P.type = .ok p) :
    ∃ handler : P.type → Handler σ Json,
      (∀ q : Request, s.answer q m = .withParams (q.paramsAs P.type) handler) ∧
        s.requestHandler r = handler p := by
  obtain ⟨handler, hanswer⟩ := Server.answer_params hm s
  refine ⟨handler, hanswer, ?_⟩
  rw [Server.requestHandler, hr, RequestMethod.ofName?_name]
  exact (hanswer r).trans (by rw [hp]; rfl)

theorem notificationHandler_eq {m : NotificationMethod} (hm : m.params? = some P) (s : Server σ)
    {n : Notification} {p : P.type} (hn : n.method = m.name) (hp : n.paramsAs P.type = .ok p) :
    ∃ handler : P.type → Handler σ Unit,
      (∀ q : Notification, s.notice q m = .withParams (q.paramsAs P.type) handler) ∧
        s.notificationHandler n = handler p := by
  obtain ⟨handler, hnotice⟩ := Server.notice_params hm s
  refine ⟨handler, hnotice, ?_⟩
  rw [Server.notificationHandler, hn, NotificationMethod.ofName?_name]
  exact (hnotice n).trans (by rw [hp]; rfl)

/-- Of every interface that was read from a value in order. As the params of its method it is sent in a
    message that is read as the same message, its params are read as they were, and the handler of the
    method is called with them. As a result it is sent in an answer that is accepted, and it is read as it
    was, by itself and by the callback that takes the answer as this interface. -/
theorem delivers :
    (∀ (m : RequestMethod) (P : Payload), m.params? = some P →
      ∀ (v : Json) (p : P.type), v.Ordered → read P.type v = .ok p → ∀ id : RequestId, id.IsAccepted →
        let r : Request := { id, method := m.name, params := some (Content.toJson p) }
        ofJson (request r).toJson = .ok (request r) ∧ r.paramsAs P.type = .ok p ∧
          ∀ {σ : Type} (s : Server σ), ∃ handler : P.type → Handler σ Json,
            (∀ q : Request, s.answer q m = .withParams (q.paramsAs P.type) handler) ∧
              s.requestHandler r = handler p) ∧
    (∀ (m : NotificationMethod) (P : Payload), m.params? = some P →
      ∀ (v : Json) (p : P.type), v.Ordered → read P.type v = .ok p →
        let n : Notification := { method := m.name, params := some (Content.toJson p) }
        ofJson (notification n).toJson = .ok (notification n) ∧ n.paramsAs P.type = .ok p ∧
          ∀ {σ : Type} (s : Server σ), ∃ handler : P.type → Handler σ Unit,
            (∀ q : Notification, s.notice q m = .withParams (q.paramsAs P.type) handler) ∧
              s.notificationHandler n = handler p) ∧
    (∀ P ∈ Payload.results,
      ∀ (v : Json) (x : P.type), v.Ordered → read P.type v = .ok x →
        ∀ id : Option RequestId, (∀ i, id = some i → i.IsAccepted) →
          let r := Response.success id (Content.toJson x)
          ofJson (response r).toJson = .ok (response r) ∧ r.resultAs P.type = .ok x ∧
            ∀ {ρ : Type} (f : Except ResponseError P.type → ρ), Callback.typed P.type f r = f (.ok x)) := by
  refine ⟨fun m P hm v p ho h id hid => ?_, fun m P hm v p ho h => ?_, fun P hP v x ho h id hid => ?_⟩
  · obtain ⟨hread, hparams⟩ := delivers_request hm ho h hid
    exact ⟨hread, hparams, fun s => requestHandler_eq hm s rfl hparams⟩
  · obtain ⟨hread, hparams⟩ := delivers_notification hm ho h
    exact ⟨hread, hparams, fun s => notificationHandler_eq hm s rfl hparams⟩
  · obtain ⟨hread, hresult⟩ := delivers_response hP ho h hid
    refine ⟨hread, hresult, fun f => ?_⟩
    have hnone : (Response.success id (Content.toJson x)).error? = none := rfl
    rw [Callback.typed, Response.outcomeAs, hnone]
    simp only [hresult]

/-- A command to execute, the cancellation of a request, and a hover that finds nothing. -/
theorem delivers_samples :
    let command : ExecuteCommandParams := { command := "c" }
    let cancel : CancelParams := { id := .number 7 }
    let r : Request :=
      { id := .name "7", method := "workspace/executeCommand", params := some (Content.toJson command) }
    let n : Notification := { method := "$/cancelRequest", params := some (Content.toJson cancel) }
    let hover := Response.success none (Content.toJson (none : Option HoverResult))
    (ofJson (request r).toJson = .ok (request r) ∧ r.paramsAs ExecuteCommandParams = .ok command) ∧
      (ofJson (notification n).toJson = .ok (notification n) ∧ n.paramsAs CancelParams = .ok cancel) ∧
      ofJson (response hover).toJson = .ok (response hover) ∧
      hover.resultAs (Option HoverResult) = .ok none := by
  intro command cancel r n hover
  obtain ⟨hrequests, hnotifications, hresults⟩ := delivers
  have hordered : ∀ key w, Json.Ordered w → Json.Ordered (.obj [(key, w)]) := fun key w hw =>
    ⟨List.pairwise_singleton _ _, hw, trivial⟩
  have hcommand := hrequests .executeCommand _ rfl (.obj [("command", .str "c")]) command
    (hordered _ _ trivial) rfl (.name "7") nofun
  have hcancel := hnotifications .cancelRequest _ rfl (.obj [("id", .int 7)]) cancel
    (hordered _ _ trivial) rfl
  have hhover := hresults ⟨Option HoverResult⟩ (by simp [Payload.results]) .null none trivial rfl none nofun
  exact ⟨⟨hcommand.1, hcommand.2.1⟩, ⟨hcancel.1, hcancel.2.1⟩, hhover.1, hhover.2.1⟩

end Message

end LanguageServer
