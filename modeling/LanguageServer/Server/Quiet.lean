import LanguageServer.Server

/-! The server that does nothing: every request has an empty result, and notifications are passed over. -/

namespace LanguageServer

/-- A server without memory that does nothing. -/
def Server.quiet : Server Unit where
  startUp params := do
    Handler.log (.startUp params.processId (params.rootUri.map (·.text)))
    return { capabilities := {} }
  shutdown := return ()
  executeCommand _ := return .null
  hover _ := return none
  definition _ := return { locations := [] }
  codeAction _ := return []
  codeLens _ := return []
  startedUp := return ()
  exit := return ()
  cancelRequest _ := return ()
  didChangeConfiguration _ := return ()
  didOpen _ := return ()
  didChange _ := return ()
  didSave _ := return ()
  didClose _ := return ()

end LanguageServer
