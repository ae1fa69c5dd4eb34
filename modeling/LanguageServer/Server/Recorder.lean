import LanguageServer.Method
import LanguageServer.Server

/-! The server that records: it keeps the calls of its handlers, the texts of open documents and the ids of
    cancelled requests, and can be told to fail in some methods. A call is recorded before it fails.
    Documents are kept under the texts of their URIs. The changes of a document are made one after the
    other, and the first that is not of the whole document fails. -/

namespace LanguageServer

/-- What the recording server keeps. -/
structure Record where
  /-- Which methods fail, and how. -/
  failures : List (String × Exception) := []
  /-- The methods that were called, the first call first. -/
  calls : List String := []
  /-- The texts of the open documents by their URIs. -/
  documents : List (String × String) := []
  /-- The ids of the cancelled requests, the first first. -/
  cancelled : List String := []

namespace Record

/-- Nothing is recorded yet, and nothing fails. -/
def empty : Record := {}

/-- A method fails from now on, in place of how it failed before. -/
def failing (r : Record) (method : String) (failure : Exception) : Record :=
  { r with failures := (method, failure) :: r.failures }

/-- How a method fails. -/
def failure? (r : Record) (method : String) : Option Exception :=
  (r.failures.find? (·.1 = method)).map (·.2)

/-- The text of an open document. -/
def document? (r : Record) (uri : String) : Option String :=
  (r.documents.find? (·.1 = uri)).map (·.2)

/-- The document has a text now. -/
def putDocument (r : Record) (uri text : String) : Record :=
  { r with documents := (uri, text) :: r.documents.filter (·.1 ≠ uri) }

/-- The document is not open any more. -/
def dropDocument (r : Record) (uri : String) : Record :=
  { r with documents := r.documents.filter (·.1 ≠ uri) }

end Record

namespace Server.Recorder

/-- Records the call of a method, which fails if it is to. -/
def record (method : String) : Handler Record Unit := do
  Handler.update fun r => { r with calls := r.calls ++ [method] }
  match (← Handler.memory).failure? method with
  | some failure => throw failure
  | none => return ()

/-- Makes changes of a document one after the other. -/
def change (uri : String) : List TextDocumentContentChangeEvent → Handler Record Unit
  | [] => return ()
  | e :: rest => do
    if e.isFull then
      Handler.update (·.putDocument uri e.text)
      change uri rest
    else throw (.invalidParams "incremental sync not supported")

end Server.Recorder

open Server.Recorder in
/-- A server that records what it is called for. -/
def Server.recorder : Server Record where
  startUp _ := do
    record RequestMethod.startUp.name
    return { capabilities := {} }
  shutdown := record RequestMethod.shutdown.name
  executeCommand params := do
    record RequestMethod.executeCommand.name
    return .obj [("arguments", .int (params.arguments.getD []).length),
      ("command", .str params.command)]
  hover params := do
    record RequestMethod.hover.name
    if params.position.line = 0 then return none
    return some { contents := [.markdown "symbol"], range := some (.point params.position) }
  definition params := do
    record RequestMethod.definition.name
    return { locations := [{ uri := params.textDocument.uri, range := .point params.position }] }
  codeAction params := do
    record RequestMethod.codeAction.name
    return params.context.diagnostics.map fun d => .new ("Fix: " ++ d.message) "test.fix"
  codeLens params := do
    record RequestMethod.codeLens.name
    return [(CodeLens.new (.point ⟨0, 0⟩)).withData
      (.obj [("uri", .str params.textDocument.uri.text)])]
  startedUp := record NotificationMethod.startedUp.name
  exit := record NotificationMethod.exit.name
  cancelRequest params := do
    record NotificationMethod.cancelRequest.name
    Handler.update fun r => { r with cancelled := r.cancelled ++ [params.id.text] }
  didChangeConfiguration _ := record NotificationMethod.didChangeConfiguration.name
  didOpen params := do
    record NotificationMethod.didOpen.name
    Handler.update (·.putDocument params.textDocument.uri.text params.textDocument.text)
  didChange params := do
    record NotificationMethod.didChange.name
    change params.textDocument.uri.text params.contentChanges
  didSave _ := record NotificationMethod.didSave.name
  didClose params := do
    record NotificationMethod.didClose.name
    Handler.update (·.dropDocument params.textDocument.uri.text)

end LanguageServer
