import LanguageServer.Content.Cancellation
import LanguageServer.Content.CodeAction
import LanguageServer.Content.Configuration
import LanguageServer.Content.Hover
import LanguageServer.Content.StartUp
import LanguageServer.Log.Event

/-! Servers: one handler for each method that a client may call. A handler may change the memory of its
    server, which is of a type `σ`, and may log; it ends in a value or in a failure, and what it changed
    stays changed either way. It does not reach the outbox. -/

namespace LanguageServer

/-- The memory of a server, and what was logged. -/
structure Journal (σ : Type) where
  memory : σ
  events : List Log.Event

/-- What a server does when one of its methods is called. -/
abbrev Handler (σ α : Type) := ExceptT Exception (StateM (Journal σ)) α

namespace Handler

variable {σ α : Type}

/-- Logs an event. -/
def log (e : Log.Event) : Handler σ Unit :=
  modify fun j => { j with events := j.events ++ [e] }

/-- The memory of the server. -/
def memory : Handler σ σ := Journal.memory <$> get

/-- Changes the memory of the server. -/
def update (f : σ → σ) : Handler σ Unit :=
  modify fun j => { j with memory := f j.memory }

/-- How a handler ends, and what it leaves behind. -/
def start (h : Handler σ α) (j : Journal σ) : Except Exception α × Journal σ := (h.run).run j

end Handler

/-- A server by its handlers. -/
structure Server (σ : Type) where
  startUp : InitializeParams → Handler σ InitializeResult
  shutdown : Handler σ Unit
  /-- The result goes to the client as it is. -/
  executeCommand : ExecuteCommandParams → Handler σ Json
  hover : TextDocumentPositionParams → Handler σ (Option HoverResult)
  definition : TextDocumentPositionParams → Handler σ DefinitionResult
  codeAction : CodeActionParams → Handler σ (List Command)
  codeLens : CodeLensParams → Handler σ (List CodeLens)
  startedUp : Handler σ Unit
  exit : Handler σ Unit
  cancelRequest : CancelParams → Handler σ Unit
  didChangeConfiguration : DidChangeConfigurationParams → Handler σ Unit
  didOpen : DidOpenTextDocumentParams → Handler σ Unit
  didChange : DidChangeTextDocumentParams → Handler σ Unit
  didSave : DidSaveTextDocumentParams → Handler σ Unit
  didClose : DidCloseTextDocumentParams → Handler σ Unit

end LanguageServer
