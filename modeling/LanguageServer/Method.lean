/-! The methods that a client may call. -/

namespace LanguageServer

/-- The methods of requests. -/
inductive RequestMethod where
  /-- The first request of all. -/
  | startUp
  | shutdown
  | executeCommand
  | hover
  | definition
  | codeAction
  | codeLens
deriving DecidableEq

namespace RequestMethod

/-- Every method of requests. -/
def all : List RequestMethod :=
  [startUp, shutdown, executeCommand, hover, definition, codeAction, codeLens]

/-- The name of a method in messages. -/
def name : RequestMethod → String
  | startUp => "initialize"
  | shutdown => "shutdown"
  | executeCommand => "workspace/executeCommand"
  | hover => "textDocument/hover"
  | definition => "textDocument/definition"
  | codeAction => "textDocument/codeAction"
  | codeLens => "textDocument/codeLens"

/-- The method with a name. -/
def ofName? (name : String) : Option RequestMethod := all.find? (·.name = name)

/-- No two methods share a name. -/
theorem ofName?_name (m : RequestMethod) : ofName? m.name = some m := by
  cases m <;> decide

end RequestMethod

/-- The methods of notifications. -/
inductive NotificationMethod where
  /-- The client has the answer to its first request. -/
  | startedUp
  | exit
  | cancelRequest
  | didChangeConfiguration
  | didOpen
  | didChange
  | didSave
  | didClose
deriving DecidableEq

namespace NotificationMethod

/-- Every method of notifications. -/
def all : List NotificationMethod :=
  [startedUp, exit, cancelRequest, didChangeConfiguration, didOpen, didChange, didSave, didClose]

/-- The name of a method in messages. -/
def name : NotificationMethod → String
  | startedUp => "initialized"
  | exit => "exit"
  | cancelRequest => "$/cancelRequest"
  | didChangeConfiguration => "workspace/didChangeConfiguration"
  | didOpen => "textDocument/didOpen"
  | didChange => "textDocument/didChange"
  | didSave => "textDocument/didSave"
  | didClose => "textDocument/didClose"

/-- The method with a name. -/
def ofName? (name : String) : Option NotificationMethod := all.find? (·.name = name)

/-- No two methods share a name. -/
theorem ofName?_name (m : NotificationMethod) : ofName? m.name = some m := by
  cases m <;> decide

end NotificationMethod

end LanguageServer
