import LanguageServer.Method
import LanguageServer.Outbox
import LanguageServer.Server

/-! Dispatch: what happens to a payload. A payload that is a message goes to the handler of its method, or
    to the callback that waits for it. A request is always answered, with a result or an error; a
    notification is answered, under no id, only if it fails. A payload that is no message is answered if it
    looks like a request with an id (`recoverId?`), and dropped otherwise. -/

namespace LanguageServer

/-- One side of a connection: the memory of its server, and its outbox. -/
structure Peer (σ ρ : Type) where
  memory : σ
  outbox : Outbox ρ

/-- What a payload leads to: the peer after it, what is logged, and what the callback of a request gave if
    the payload answered one. -/
structure Effect (σ ρ : Type) where
  peer : Peer σ ρ
  events : List Log.Event
  answer : Option ρ

variable {σ ρ α : Type}

/-- Goes on with params that were read, or fails because they could not be. -/
def Handler.withParams (params : Except Fault α) {β : Type} (h : α → Handler σ β) : Handler σ β :=
  match params with
  | .ok p => h p
  | .error fault => throw (.ofFault fault)

/-- Calls the handler of a request; what it gives is written as JSON. -/
def Server.answer (s : Server σ) (r : Request) : RequestMethod → Handler σ Json
  | .startUp => .withParams (r.paramsAs InitializeParams) fun p => Content.toJson <$> s.startUp p
  | .shutdown => (fun _ => .null) <$> s.shutdown
  | .executeCommand => .withParams (r.paramsAs ExecuteCommandParams) s.executeCommand
  | .hover =>
    .withParams (r.paramsAs TextDocumentPositionParams) fun p => Content.toJson <$> s.hover p
  | .definition =>
    .withParams (r.paramsAs TextDocumentPositionParams) fun p => Content.toJson <$> s.definition p
  | .codeAction =>
    .withParams (r.paramsAs CodeActionParams) fun p => Content.toJson <$> s.codeAction p
  | .codeLens => .withParams (r.paramsAs CodeLensParams) fun p => Content.toJson <$> s.codeLens p

/-- Calls the handler of a notification. -/
def Server.notice (s : Server σ) (n : Notification) : NotificationMethod → Handler σ Unit
  | .startedUp => s.startedUp
  | .exit => s.exit
  | .cancelRequest => .withParams (n.paramsAs CancelParams) s.cancelRequest
  | .didChangeConfiguration =>
    .withParams (n.paramsAs DidChangeConfigurationParams) s.didChangeConfiguration
  | .didOpen => .withParams (n.paramsAs DidOpenTextDocumentParams) s.didOpen
  | .didChange => .withParams (n.paramsAs DidChangeTextDocumentParams) s.didChange
  | .didSave => .withParams (n.paramsAs DidSaveTextDocumentParams) s.didSave
  | .didClose => .withParams (n.paramsAs DidCloseTextDocumentParams) s.didClose

/-- The failure of a method that no handler is for. -/
def methodNotFound (what method : String) : Exception :=
  .new .methodNotFound s!"{what} method '{method}' not specified in interface implementation"

/-- The handler of a request, which fails if there is none for its method. -/
def Server.requestHandler (s : Server σ) (r : Request) : Handler σ Json :=
  match RequestMethod.ofName? r.method with
  | some m => s.answer r m
  | none => throw (methodNotFound "request" r.method)

/-- The handler of a notification, which fails if there is none for its method. -/
def Server.notificationHandler (s : Server σ) (n : Notification) : Handler σ Unit :=
  match NotificationMethod.ofName? n.method with
  | some m => s.notice n m
  | none => throw (methodNotFound "notification" n.method)

/-- A request is answered with what its handler gives. -/
def Request.process (r : Request) (s : Server σ) (p : Peer σ ρ) : Effect σ ρ :=
  match (s.requestHandler r).start ⟨p.memory, [.incoming r.method]⟩ with
  | (.ok result, j) =>
    { peer := ⟨j.memory, p.outbox.pushResponse (.success (some r.id) result)⟩
      events := j.events
      answer := none }
  | (.error failure, j) =>
    { peer := ⟨j.memory, p.outbox.pushResponse (.failure (some r.id) (.ofException failure))⟩
      events := j.events ++ [.requestFailed r.id.text r.method failure]
      answer := none }

/-- A notification is answered, under no id, if its handler fails. -/
def Notification.process (n : Notification) (s : Server σ) (p : Peer σ ρ) : Effect σ ρ :=
  match (s.notificationHandler n).start ⟨p.memory, [.incoming n.method]⟩ with
  | (.ok (), j) => { peer := ⟨j.memory, p.outbox⟩, events := j.events, answer := none }
  | (.error failure, j) =>
    { peer := ⟨j.memory, p.outbox.pushResponse (.failure none (.ofException failure))⟩
      events := j.events ++ [.notificationFailed n.method failure]
      answer := none }

/-- A response goes to the callback that waits for it. -/
def Response.process (r : Response) (p : Peer σ ρ) : Effect σ ρ :=
  let (answer, outbox) := p.outbox.handle r
  { peer := { p with outbox }
    events := .incoming (r.idText?.getD "") :: p.outbox.handleEvents r
    answer }

/-- What a message leads to. -/
def Message.process (m : Message) (s : Server σ) (p : Peer σ ρ) : Effect σ ρ :=
  match m with
  | .request r => r.process s p
  | .notification n => n.process s p
  | .response r => r.process p

/-- The id of a payload that is no message but has a method and an id. -/
def recoverId? (raw : String) : Option RequestId :=
  match Json.read raw with
  | .ok (.obj members) =>
    if Json.Members.has "method" members then
      (Json.Members.get? "id" members).bind RequestId.ofRefused?
    else none
  | _ => none

/-- What a payload that is no message leads to. -/
def refuse (raw : String) (failure : Exception) (p : Peer σ ρ) : Effect σ ρ :=
  match recoverId? raw with
  | some id =>
    { peer := { p with outbox := p.outbox.pushResponse (.failure (some id) (.ofException failure)) }
      events := [.requestRejected id.text failure]
      answer := none }
  | none =>
    { peer := p, events := [.payloadDropped failure, .droppedText raw], answer := none }

/-- What a payload leads to, and the kind of message it is or why it is none. -/
def dispatch (raw : String) (s : Server σ) (p : Peer σ ρ) :
    Except Exception MessageKind × Effect σ ρ :=
  match Message.parse raw with
  | .ok m => (.ok m.kind, m.process s p)
  | .error fault =>
    let failure := Exception.ofFault fault
    (.error failure, refuse raw failure p)

end LanguageServer
