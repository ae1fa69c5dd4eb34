import LanguageServer.Content.Cancellation
import LanguageServer.Content.Configuration
import LanguageServer.Content.Diagnostic
import LanguageServer.Content.Registration
import LanguageServer.Content.UserMessage
import LanguageServer.Content.WorkspaceEdit
import LanguageServer.Outbox

/-! What a server tells and asks its client. Each operation queues one message, with params of the type that
    its method takes. The callback of a request takes the answer as the type that the method answers
    with. -/

namespace LanguageServer.Outbox

variable {ρ : Type}

/-- Queues a notification with params. -/
def tell {α : Type} [Content α] (o : Outbox ρ) (method : String) (params : α) : Outbox ρ :=
  o.pushNotification { method, params := some (Content.toJson params) }

/-- Queues a request with params, whose answer is taken as an interface. -/
def ask {α : Type} [Content α] (o : Outbox ρ) (method : String) (params : α) (β : Type) [Content β]
    (f : Except ResponseError β → ρ) : RequestId × Outbox ρ :=
  o.pushRequest method (some (Content.toJson params)) (.typed β f)

/-- Shows a message. -/
def showMessage (o : Outbox ρ) (params : ShowMessageParams) : Outbox ρ :=
  o.tell "window/showMessage" params

/-- Logs a message. -/
def logMessage (o : Outbox ρ) (params : LogMessageParams) : Outbox ρ :=
  o.tell "window/logMessage" params

/-- Sends any data for statistics. -/
def telemetry (o : Outbox ρ) (params : Json) : Outbox ρ := o.tell "telemetry/event" params

/-- Publishes the diagnostics of a document. -/
def publishDiagnostics (o : Outbox ρ) (params : PublishDiagnosticsParams) : Outbox ρ :=
  o.tell "textDocument/publishDiagnostics" params

/-- A request that was sent need not be answered any more. -/
def cancelRequest (o : Outbox ρ) (id : RequestId) : Outbox ρ :=
  o.tell "$/cancelRequest" ({ id } : CancelParams)

/-- Shows a message with buttons; the answer is the button that was chosen, if one was. -/
def showMessageRequest (o : Outbox ρ) (params : ShowMessageRequestParams)
    (f : Except ResponseError (Option MessageActionItem) → ρ) : RequestId × Outbox ρ :=
  o.ask "window/showMessageRequest" params (Option MessageActionItem) f

/-- Registers capabilities. -/
def registerCapability (o : Outbox ρ) (params : RegistrationParams)
    (f : Except ResponseError Json → ρ) : RequestId × Outbox ρ :=
  o.ask "client/registerCapability" params Json f

/-- Takes registrations back. -/
def unregisterCapability (o : Outbox ρ) (params : UnregistrationParams)
    (f : Except ResponseError Json → ρ) : RequestId × Outbox ρ :=
  o.ask "client/unregisterCapability" params Json f

/-- Asks for values of the configuration; the answer has one for each item. -/
def configuration (o : Outbox ρ) (params : ConfigurationParams)
    (f : Except ResponseError (List Json) → ρ) : RequestId × Outbox ρ :=
  o.ask "workspace/configuration" params (List Json) f

/-- Has the client apply an edit. -/
def applyEdit (o : Outbox ρ) (params : ApplyWorkspaceEditParams)
    (f : Except ResponseError ApplyWorkspaceEditResult → ρ) : RequestId × Outbox ρ :=
  o.ask "workspace/applyEdit" params ApplyWorkspaceEditResult f

/-- Asks for the folders of the workspace; there is no answer if none is open. -/
def workspaceFolders (o : Outbox ρ)
    (f : Except ResponseError (Option (List WorkspaceFolder)) → ρ) : RequestId × Outbox ρ :=
  o.pushRequest "workspace/workspaceFolders" none (.typed (Option (List WorkspaceFolder)) f)

end LanguageServer.Outbox
