import LanguageServer.Dispatch
import LanguageServer.Proofs.Content.Params
import Mathlib.Logic.Function.Basic

/-! Calls. What the payloads of a session call for, without a server: a payload calls a method if it is a
    request or a notification, of a method of its kind, with params of the form of the method. All that a
    call says is read off its params as a JSON value: the id that is cancelled, and the edits of documents
    by the strings that were sent as URIs. -/

namespace LanguageServer

/-- The form of the params of a method. The params of a method that takes none are not looked at. -/
def RequestMethod.form : RequestMethod → Schema
  | startUp => Content.schema InitializeParams
  | shutdown => .any
  | executeCommand => Content.schema ExecuteCommandParams
  | hover => Content.schema TextDocumentPositionParams
  | definition => Content.schema TextDocumentPositionParams
  | codeAction => Content.schema CodeActionParams
  | codeLens => Content.schema CodeLensParams

/-- The form of the params of a method. The params of a method that takes none are not looked at. -/
def NotificationMethod.form : NotificationMethod → Schema
  | startedUp => .any
  | exit => .any
  | cancelRequest => Content.schema CancelParams
  | didChangeConfiguration => Content.schema DidChangeConfigurationParams
  | didOpen => Content.schema DidOpenTextDocumentParams
  | didChange => Content.schema DidChangeTextDocumentParams
  | didSave => Content.schema DidSaveTextDocumentParams
  | didClose => Content.schema DidCloseTextDocumentParams

/-- A call of a method with params. -/
inductive Call where
  | request (method : RequestMethod) (params : Json)
  | notification (method : NotificationMethod) (params : Json)

namespace Call

/-- The name of the method. -/
def name : Call → String
  | request m _ => m.name
  | notification m _ => m.name

/-- The params have the form of the method. -/
def isValid : Call → Bool
  | request m params => m.form.accepts params
  | notification m params => m.form.accepts params

/-- The call that a message makes; absent params are null. -/
def ofMessage? : Message → Option Call
  | .request r =>
    ((RequestMethod.ofName? r.method).map (request · (r.params.getD .null))).filter isValid
  | .notification n =>
    ((NotificationMethod.ofName? n.method).map (notification · (n.params.getD .null))).filter isValid
  | .response _ => none

/-- The call that a payload makes. -/
def ofText? (raw : String) : Option Call :=
  match Message.parse raw with
  | .ok m => ofMessage? m
  | .error _ => none

/-- The text of the id that is cancelled. -/
def cancelled? : Call → Option String
  | notification .cancelRequest params => ((params.get? "id").bind RequestId.ofJson?).map (·.text)
  | _ => none

/-- The URI of the document that is edited. -/
def uri? : Call → Option String
  | notification _ params => params.textAt? ["textDocument", "uri"]
  | request _ _ => none

/-- What the document holds after each of the edits, if it is still open. -/
def texts : Call → List (Option String)
  | notification .didOpen params => [params.textAt? ["textDocument", "text"]]
  | notification .didChange params =>
    match params.get? "contentChanges" with
    | some (.arr changes) => (Json.fullTexts changes).map some
    | _ => []
  | notification .didClose _ => [none]
  | _ => []

/-- The edits of documents by their URIs. -/
def edits (c : Call) : List (String × Option String) :=
  match c.uri? with
  | some uri => c.texts.map (uri, ·)
  | none => []

/-- The open documents after a call. -/
def edit (documents : String → Option String) (c : Call) : String → Option String :=
  c.edits.foldl (fun documents e => Function.update documents e.1 e.2) documents

theorem edits_of_plain {c : Call} (h : c.texts = []) : c.edits = [] := by
  unfold edits
  rw [h]
  split <;> rfl

theorem edits_of_uri {m : NotificationMethod} {params : Json} {uri : String}
    (h : params.textAt? ["textDocument", "uri"] = some uri) :
    (notification m params).edits = (notification m params).texts.map (uri, ·) := by
  rw [edits, uri?, h]

end Call

end LanguageServer
