import LanguageServer.Content

/-! What a client can do, as it tells the server at the start. -/

namespace LanguageServer

open Content

/-- Whether a capability can be registered later on. -/
structure DynamicRegistration where
  dynamicRegistration : Option Bool := none
deriving DecidableEq

/-- The form of `DynamicRegistration`. -/
def DynamicRegistration.schema : Schema :=
  .record "DynamicRegistration" <|
    .optional "dynamicRegistration" (.plain .boolean) <|
    .nil

instance : Content DynamicRegistration where
  schema := DynamicRegistration.schema
  pack x := (x.dynamicRegistration, ())
  unpack := fun (dynamicRegistration, _) => { dynamicRegistration }
  unpack_pack _ := rfl
  pack_unpack _ := rfl

/-- Capabilities that concern the workspace. -/
structure WorkspaceClientCapabilities where
  /-- The client applies edits that the server sends. -/
  applyEdit : Option Bool := none
  workspaceEdit : Option DynamicRegistration := none
  didChangeConfiguration : Option DynamicRegistration := none
  didChangeWatchedFiles : Option DynamicRegistration := none
  symbol : Option DynamicRegistration := none
  executeCommand : Option DynamicRegistration := none
deriving DecidableEq

/-- The form of `WorkspaceClientCapabilities`. -/
def WorkspaceClientCapabilities.schema : Schema :=
  .record "WorkspaceClientCapabilities" <|
    .optional "applyEdit" (.plain .boolean) <|
    .optional "workspaceEdit" (.nested DynamicRegistration.schema) <|
    .optional "didChangeConfiguration" (.nested DynamicRegistration.schema) <|
    .optional "didChangeWatchedFiles" (.nested DynamicRegistration.schema) <|
    .optional "symbol" (.nested DynamicRegistration.schema) <|
    .optional "executeCommand" (.nested DynamicRegistration.schema) <|
    .nil

instance : Content WorkspaceClientCapabilities where
  schema := WorkspaceClientCapabilities.schema
  pack x := (x.applyEdit, packSome x.workspaceEdit, packSome x.didChangeConfiguration,
    packSome x.didChangeWatchedFiles, packSome x.symbol, packSome x.executeCommand, ())
  unpack := fun (applyEdit, workspaceEdit, didChangeConfiguration, didChangeWatchedFiles, symbol,
    executeCommand, _) =>
    { applyEdit, workspaceEdit := unpackSome workspaceEdit,
      didChangeConfiguration := unpackSome didChangeConfiguration,
      didChangeWatchedFiles := unpackSome didChangeWatchedFiles, symbol := unpackSome symbol,
      executeCommand := unpackSome executeCommand }
  unpack_pack _ := by simp
  pack_unpack := fun (_, _) => by simp; rfl

/-- Capabilities that concern the saving of documents. -/
structure SynchronizationCapabilities where
  dynamicRegistration : Option Bool := none
  willSave : Option Bool := none
  willSaveWaitUntil : Option Bool := none
  didSave : Option Bool := none
deriving DecidableEq

/-- The form of `SynchronizationCapabilities`. -/
def SynchronizationCapabilities.schema : Schema :=
  .record "Synchronization" <|
    .optional "dynamicRegistration" (.plain .boolean) <|
    .optional "willSave" (.plain .boolean) <|
    .optional "willSaveWaitUntil" (.plain .boolean) <|
    .optional "didSave" (.plain .boolean) <|
    .nil

instance : Content SynchronizationCapabilities where
  schema := SynchronizationCapabilities.schema
  pack x := (x.dynamicRegistration, x.willSave, x.willSaveWaitUntil, x.didSave, ())
  unpack := fun (dynamicRegistration, willSave, willSaveWaitUntil, didSave, _) =>
    { dynamicRegistration, willSave, willSaveWaitUntil, didSave }
  unpack_pack _ := rfl
  pack_unpack _ := rfl

/-- Capabilities that concern a proposal for completion. -/
structure CompletionItemCapabilities where
  snippetSupport : Option Bool := none
deriving DecidableEq

/-- The form of `CompletionItemCapabilities`. -/
def CompletionItemCapabilities.schema : Schema :=
  .record "CompletionItem" <|
    .optional "snippetSupport" (.plain .boolean) <|
    .nil

instance : Content CompletionItemCapabilities where
  schema := CompletionItemCapabilities.schema
  pack x := (x.snippetSupport, ())
  unpack := fun (snippetSupport, _) => { snippetSupport }
  unpack_pack _ := rfl
  pack_unpack _ := rfl

/-- Capabilities that concern completion. -/
structure CompletionCapabilities where
  dynamicRegistration : Option Bool := none
  completionItem : Option CompletionItemCapabilities := none
deriving DecidableEq

/-- The form of `CompletionCapabilities`. -/
def CompletionCapabilities.schema : Schema :=
  .record "Completion" <|
    .optional "dynamicRegistration" (.plain .boolean) <|
    .optional "completionItem" (.nested CompletionItemCapabilities.schema) <|
    .nil

instance : Content CompletionCapabilities where
  schema := CompletionCapabilities.schema
  pack x := (x.dynamicRegistration, packSome x.completionItem, ())
  unpack := fun (dynamicRegistration, completionItem, _) =>
    { dynamicRegistration, completionItem := unpackSome completionItem }
  unpack_pack _ := by simp
  pack_unpack := fun (_, _) => by simp; rfl

/-- Capabilities that concern single documents. -/
structure TextDocumentClientCapabilities where
  synchronization : Option SynchronizationCapabilities := none
  completion : Option CompletionCapabilities := none
  hover : Option DynamicRegistration := none
  signatureHelp : Option DynamicRegistration := none
  references : Option DynamicRegistration := none
  documentHighlight : Option DynamicRegistration := none
  documentSymbol : Option DynamicRegistration := none
  formatting : Option DynamicRegistration := none
  rangeFormatting : Option DynamicRegistration := none
  onTypeFormatting : Option DynamicRegistration := none
  definition : Option DynamicRegistration := none
  codeAction : Option DynamicRegistration := none
  codeLens : Option DynamicRegistration := none
  documentLink : Option DynamicRegistration := none
  rename : Option DynamicRegistration := none
deriving DecidableEq

/-- The form of `TextDocumentClientCapabilities`. -/
def TextDocumentClientCapabilities.schema : Schema :=
  .record "TextDocumentClientCapabilities" <|
    .optional "synchronization" (.nested SynchronizationCapabilities.schema) <|
    .optional "completion" (.nested CompletionCapabilities.schema) <|
    .optional "hover" (.nested DynamicRegistration.schema) <|
    .optional "signatureHelp" (.nested DynamicRegistration.schema) <|
    .optional "references" (.nested DynamicRegistration.schema) <|
    .optional "documentHighlight" (.nested DynamicRegistration.schema) <|
    .optional "documentSymbol" (.nested DynamicRegistration.schema) <|
    .optional "formatting" (.nested DynamicRegistration.schema) <|
    .optional "rangeFormatting" (.nested DynamicRegistration.schema) <|
    .optional "onTypeFormatting" (.nested DynamicRegistration.schema) <|
    .optional "definition" (.nested DynamicRegistration.schema) <|
    .optional "codeAction" (.nested DynamicRegistration.schema) <|
    .optional "codeLens" (.nested DynamicRegistration.schema) <|
    .optional "documentLink" (.nested DynamicRegistration.schema) <|
    .optional "rename" (.nested DynamicRegistration.schema) <|
    .nil

instance : Content TextDocumentClientCapabilities where
  schema := TextDocumentClientCapabilities.schema
  pack x := (packSome x.synchronization, packSome x.completion, packSome x.hover,
    packSome x.signatureHelp, packSome x.references, packSome x.documentHighlight,
    packSome x.documentSymbol, packSome x.formatting, packSome x.rangeFormatting,
    packSome x.onTypeFormatting, packSome x.definition, packSome x.codeAction,
    packSome x.codeLens, packSome x.documentLink, packSome x.rename, ())
  unpack := fun (synchronization, completion, hover, signatureHelp, references, documentHighlight,
    documentSymbol, formatting, rangeFormatting, onTypeFormatting, definition, codeAction, codeLens,
    documentLink, rename, _) =>
    { synchronization := unpackSome synchronization, completion := unpackSome completion,
      hover := unpackSome hover, signatureHelp := unpackSome signatureHelp,
      references := unpackSome references, documentHighlight := unpackSome documentHighlight,
      documentSymbol := unpackSome documentSymbol, formatting := unpackSome formatting,
      rangeFormatting := unpackSome rangeFormatting,
      onTypeFormatting := unpackSome onTypeFormatting, definition := unpackSome definition,
      codeAction := unpackSome codeAction, codeLens := unpackSome codeLens,
      documentLink := unpackSome documentLink, rename := unpackSome rename }
  unpack_pack _ := by simp
  pack_unpack := fun (_, _) => by simp; rfl

/-- Everything that a client tells it can do. -/
structure ClientCapabilities where
  workspace : Option WorkspaceClientCapabilities := none
  textDocument : Option TextDocumentClientCapabilities := none
  experimental : Option Json := none
deriving DecidableEq

/-- The form of `ClientCapabilities`. -/
def ClientCapabilities.schema : Schema :=
  .record "ClientCapabilities" <|
    .optional "workspace" (.nested WorkspaceClientCapabilities.schema) <|
    .optional "textDocument" (.nested TextDocumentClientCapabilities.schema) <|
    .optional "experimental" (.plain .object) <|
    .nil

instance : Content ClientCapabilities where
  schema := ClientCapabilities.schema
  pack x := (packSome x.workspace, packSome x.textDocument, x.experimental, ())
  unpack := fun (workspace, textDocument, experimental, _) =>
    { workspace := unpackSome workspace, textDocument := unpackSome textDocument, experimental }
  unpack_pack _ := by simp
  pack_unpack := fun (_, _) => by simp; rfl

/-- The client tells that it applies edits of the server. -/
def ClientCapabilities.supportsApplyEdit (c : ClientCapabilities) : Bool :=
  (c.workspace.bind (·.applyEdit)).getD false

end LanguageServer
