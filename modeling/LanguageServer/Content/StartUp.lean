import LanguageServer.Content.ClientCapabilities
import LanguageServer.Content.ServerCapabilities
import LanguageServer.ErrorCode

/-! The exchange at the start: what the client asks for, what the server answers, and what comes with a
    refusal. -/

namespace LanguageServer

open Content

/-- The request at the start. The root and the capabilities are checked first. The root may be null but has
    to be there; the process may be left out. -/
structure InitializeParams where
  processId : Option UInt32 := none
  /-- The root of the workspace, if a folder is open. -/
  rootUri : Option Uri
  capabilities : ClientCapabilities
  options : Option Json := none
  trace : Option String := none
deriving DecidableEq

/-- The form of `InitializeParams`. -/
def InitializeParams.schema : Schema :=
  .record "InitializeParams" <|
    .cons "processId" true .nullIfAbsent (.plain .unsignedOrNull) <|
    .required "rootUri" (.plain .uriOrNull) <|
    .required "capabilities" (.nested ClientCapabilities.schema) <|
    .optionalLate "initializationOptions" (.plain .object) <|
    .optionalLate "trace" (.plain .string) <|
    .nil

instance : Content InitializeParams where
  schema := InitializeParams.schema
  pack x := (x.processId, x.rootUri, pack x.capabilities, x.options, x.trace, ())
  unpack := fun (processId, rootUri, capabilities, options, trace, _) =>
    { processId, rootUri, capabilities := unpack capabilities, options, trace }
  unpack_pack _ := by simp
  pack_unpack := fun (_, _) => by simp; rfl

namespace InitializeParams

/-- A request with a root and capabilities alone. -/
def new (rootUri : Option Uri) (capabilities : ClientCapabilities) : InitializeParams :=
  { rootUri, capabilities }

/-- The request with the process of the client. -/
def withProcessId (p : InitializeParams) (processId : UInt32) : InitializeParams :=
  { p with processId := some processId }

/-- The request with options for the server. -/
def withOptions (p : InitializeParams) (options : Json) : InitializeParams :=
  { p with options := some options }

/-- The request with how much the server shall tell. -/
def withTrace (p : InitializeParams) (trace : String) : InitializeParams :=
  { p with trace := some trace }

end InitializeParams

/-- The answer at the start. -/
structure InitializeResult where
  capabilities : ServerCapabilities
deriving DecidableEq

/-- The form of `InitializeResult`. -/
def InitializeResult.schema : Schema :=
  .record "InitializeResult" <|
    .required "capabilities" (.nested ServerCapabilities.schema) <|
    .nil

instance : Content InitializeResult where
  schema := InitializeResult.schema
  pack x := (pack x.capabilities, ())
  unpack := fun (capabilities, _) => { capabilities := unpack capabilities }
  unpack_pack _ := by simp
  pack_unpack := fun (_, _) => by simp; rfl

/-- What comes with a refusal at the start: whether the client shall try again. -/
structure InitializeError where
  retry : Bool
deriving DecidableEq

/-- The form of `InitializeError`. -/
def InitializeError.schema : Schema :=
  .record "InitializeError" <|
    .required "retry" (.plain .boolean) <|
    .nil

instance : Content InitializeError where
  schema := InitializeError.schema
  pack x := (x.retry, ())
  unpack := fun (retry, _) => { retry }
  unpack_pack _ := rfl
  pack_unpack _ := rfl

/-- The refusal as a failure with a code and a message. -/
def InitializeError.toException (e : InitializeError) (code : ErrorCode) (message : String) :
    Exception :=
  (Exception.new code message).withData (toJson e)

end LanguageServer
