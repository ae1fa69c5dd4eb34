import LanguageServer.Content

/-! What a server can do, as it answers the client at the start. -/

namespace LanguageServer

open Content

/-- How the client tells about a saved document. -/
structure SaveOptions where
  /-- The text comes with it. -/
  includeText : Option Bool := none
deriving DecidableEq

/-- The form of `SaveOptions`. -/
def SaveOptions.schema : Schema :=
  .record "SaveOptions" <|
    .optional "includeText" (.plain .boolean) <|
    .nil

instance : Content SaveOptions where
  schema := SaveOptions.schema
  pack x := (x.includeText, ())
  unpack := fun (includeText, _) => { includeText }
  unpack_pack _ := rfl
  pack_unpack _ := rfl

/-- How changes of documents reach the server. -/
inductive TextDocumentSyncKind where
  | none
  | full
  | incremental
deriving DecidableEq

namespace TextDocumentSyncKind

/-- Every value, in the order of the numbers. -/
def all : List TextDocumentSyncKind := [.none, .full, .incremental]

/-- The number that stands for a value. -/
def number : TextDocumentSyncKind → Int
  | .none => 0
  | .full => 1
  | .incremental => 2

/-- The name of a value. -/
def name : TextDocumentSyncKind → String
  | .none => "None"
  | .full => "Full"
  | .incremental => "Incremental"

/-- The value that a number stands for. -/
def ofNumber? (n : Int) : Option TextDocumentSyncKind := all.find? (·.number = n)

/-- The place of a value among all. -/
def place : TextDocumentSyncKind → Nat
  | .none => 0
  | .full => 1
  | .incremental => 2

/-- The form of `TextDocumentSyncKind`. -/
def schema : Schema := .enumeration "TextDocumentSyncKind" (all.map fun x => (x.name, x.number))

end TextDocumentSyncKind

instance : Content TextDocumentSyncKind where
  schema := TextDocumentSyncKind.schema
  pack x := ⟨x.place, by cases x <;> decide⟩
  unpack i := TextDocumentSyncKind.all.get i
  unpack_pack x := by cases x <;> rfl
  pack_unpack :=
    (by decide : ∀ i : Fin 3, (⟨(TextDocumentSyncKind.all.get i).place, _⟩ : Fin 3) = i)

/-- Which events of documents reach the server, and how. -/
structure TextDocumentSyncOptions where
  openClose : Option Bool := none
  change : Option TextDocumentSyncKind := none
  willSave : Option Bool := none
  willSaveWaitUntil : Option Bool := none
  save : Option SaveOptions := none
deriving DecidableEq

/-- The form of `TextDocumentSyncOptions`. -/
def TextDocumentSyncOptions.schema : Schema :=
  .record "TextDocumentSyncOptions" <|
    .optional "openClose" (.plain .boolean) <|
    .optional "change" (.nested TextDocumentSyncKind.schema) <|
    .optional "willSave" (.plain .boolean) <|
    .optional "willSaveWaitUntil" (.plain .boolean) <|
    .optional "save" (.nested SaveOptions.schema) <|
    .nil

instance : Content TextDocumentSyncOptions where
  schema := TextDocumentSyncOptions.schema
  pack x := (x.openClose, packSome x.change, x.willSave, x.willSaveWaitUntil, packSome x.save, ())
  unpack := fun (openClose, change, willSave, willSaveWaitUntil, save, _) =>
    { openClose, change := unpackSome change, willSave, willSaveWaitUntil, save := unpackSome save }
  unpack_pack _ := by simp
  pack_unpack := fun (_, _) => by simp; rfl

/-- How documents reach the server: the kind of changes alone, or all options. -/
inductive TextDocumentSync where
  | kind (kind : TextDocumentSyncKind)
  | options (options : TextDocumentSyncOptions)
deriving DecidableEq

namespace TextDocumentSync

/-- The form of `TextDocumentSync`. -/
def schema : Schema :=
  .union "TextDocumentSync" .number TextDocumentSyncKind.schema
    .object TextDocumentSyncOptions.schema

/-- The kind of changes; options that leave it open mean none. -/
def changeKind : TextDocumentSync → TextDocumentSyncKind
  | kind k => k
  | options o => o.change.getD .none

end TextDocumentSync

instance : Content TextDocumentSync where
  schema := TextDocumentSync.schema
  pack x :=
    match x with
    | .kind k => .inl (pack k)
    | .options o => .inr (pack o)
  unpack v :=
    match v with
    | .inl k => .kind (unpack k)
    | .inr o => .options (unpack o)
  unpack_pack x := by cases x <;> simp
  pack_unpack v :=
    match v with
    | .inl k => congrArg Sum.inl (pack_unpack (α := TextDocumentSyncKind) k)
    | .inr o => congrArg Sum.inr (pack_unpack (α := TextDocumentSyncOptions) o)

/-- How the server completes. -/
structure CompletionOptions where
  resolveProvider : Option Bool := none
  triggerCharacters : Option (List String) := none
deriving DecidableEq

/-- The form of `CompletionOptions`. -/
def CompletionOptions.schema : Schema :=
  .record "CompletionOptions" <|
    .optional "resolveProvider" (.plain .boolean) <|
    .optional "triggerCharacters" (.plain .arrayOfString) <|
    .nil

instance : Content CompletionOptions where
  schema := CompletionOptions.schema
  pack x := (x.resolveProvider, x.triggerCharacters, ())
  unpack := fun (resolveProvider, triggerCharacters, _) => { resolveProvider, triggerCharacters }
  unpack_pack _ := rfl
  pack_unpack _ := rfl

/-- How the server helps with signatures. -/
structure SignatureHelpOptions where
  triggerCharacters : Option (List String) := none
deriving DecidableEq

/-- The form of `SignatureHelpOptions`. -/
def SignatureHelpOptions.schema : Schema :=
  .record "SignatureHelpOptions" <|
    .optional "triggerCharacters" (.plain .arrayOfString) <|
    .nil

instance : Content SignatureHelpOptions where
  schema := SignatureHelpOptions.schema
  pack x := (x.triggerCharacters, ())
  unpack := fun (triggerCharacters, _) => { triggerCharacters }
  unpack_pack _ := rfl
  pack_unpack _ := rfl

/-- How the server resolves lenses; links of documents have the same options. -/
structure CodeLensOptions where
  resolveProvider : Option Bool := none
deriving DecidableEq

/-- The form of `CodeLensOptions`. -/
def CodeLensOptions.schema : Schema :=
  .record "CodeLensOptions" <|
    .optional "resolveProvider" (.plain .boolean) <|
    .nil

instance : Content CodeLensOptions where
  schema := CodeLensOptions.schema
  pack x := (x.resolveProvider, ())
  unpack := fun (resolveProvider, _) => { resolveProvider }
  unpack_pack _ := rfl
  pack_unpack _ := rfl

/-- Which characters make the server format the text around them. -/
structure DocumentOnTypeFormattingOptions where
  firstTriggerCharacter : String
  moreTriggerCharacter : Option (List String) := none
deriving DecidableEq

/-- The form of `DocumentOnTypeFormattingOptions`. -/
def DocumentOnTypeFormattingOptions.schema : Schema :=
  .record "DocumentOnTypeFormattingOptions" <|
    .required "firstTriggerCharacter" (.plain .string) <|
    .optional "moreTriggerCharacter" (.plain .arrayOfString) <|
    .nil

instance : Content DocumentOnTypeFormattingOptions where
  schema := DocumentOnTypeFormattingOptions.schema
  pack x := (x.firstTriggerCharacter, x.moreTriggerCharacter, ())
  unpack := fun (firstTriggerCharacter, moreTriggerCharacter, _) =>
    { firstTriggerCharacter, moreTriggerCharacter }
  unpack_pack _ := rfl
  pack_unpack _ := rfl

namespace DocumentOnTypeFormattingOptions

/-- One character alone. -/
def new (first : String) : DocumentOnTypeFormattingOptions := { firstTriggerCharacter := first }

/-- One character more, behind those there are. -/
def addTrigger (o : DocumentOnTypeFormattingOptions) (character : String) :
    DocumentOnTypeFormattingOptions :=
  { o with moreTriggerCharacter := some (o.moreTriggerCharacter.getD [] ++ [character]) }

end DocumentOnTypeFormattingOptions

/-- The commands that the server runs. -/
structure ExecuteCommandOptions where
  commands : List String
deriving DecidableEq

/-- The form of `ExecuteCommandOptions`. -/
def ExecuteCommandOptions.schema : Schema :=
  .record "ExecuteCommandOptions" <|
    .required "commands" (.plain .arrayOfString) <|
    .nil

instance : Content ExecuteCommandOptions where
  schema := ExecuteCommandOptions.schema
  pack x := (x.commands, ())
  unpack := fun (commands, _) => { commands }
  unpack_pack _ := rfl
  pack_unpack _ := rfl

/-- Everything that a server tells it can do. What is only true or false is checked last. -/
structure ServerCapabilities where
  textDocumentSync : Option TextDocumentSync := none
  hoverProvider : Option Bool := none
  completionProvider : Option CompletionOptions := none
  signatureHelpProvider : Option SignatureHelpOptions := none
  definitionProvider : Option Bool := none
  referencesProvider : Option Bool := none
  documentHighlightProvider : Option Bool := none
  documentSymbolProvider : Option Bool := none
  workspaceSymbolProvider : Option Bool := none
  codeActionProvider : Option Bool := none
  codeLensProvider : Option CodeLensOptions := none
  documentFormattingProvider : Option Bool := none
  documentRangeFormattingProvider : Option Bool := none
  documentOnTypeFormattingProvider : Option DocumentOnTypeFormattingOptions := none
  renameProvider : Option Bool := none
  documentLinkProvider : Option CodeLensOptions := none
  executeCommandProvider : Option ExecuteCommandOptions := none
  experimental : Option Json := none
deriving DecidableEq

/-- The form of `ServerCapabilities`. -/
def ServerCapabilities.schema : Schema :=
  .record "ServerCapabilities" <|
    .optional "textDocumentSync" (.nested TextDocumentSync.schema) <|
    .optionalLate "hoverProvider" (.plain .boolean) <|
    .optional "completionProvider" (.nested CompletionOptions.schema) <|
    .optional "signatureHelpProvider" (.nested SignatureHelpOptions.schema) <|
    .optionalLate "definitionProvider" (.plain .boolean) <|
    .optionalLate "referencesProvider" (.plain .boolean) <|
    .optionalLate "documentHighlightProvider" (.plain .boolean) <|
    .optionalLate "documentSymbolProvider" (.plain .boolean) <|
    .optionalLate "workspaceSymbolProvider" (.plain .boolean) <|
    .optionalLate "codeActionProvider" (.plain .boolean) <|
    .optional "codeLensProvider" (.nested CodeLensOptions.schema) <|
    .optionalLate "documentFormattingProvider" (.plain .boolean) <|
    .optionalLate "documentRangeFormattingProvider" (.plain .boolean) <|
    .optional "documentOnTypeFormattingProvider" (.nested DocumentOnTypeFormattingOptions.schema) <|
    .optionalLate "renameProvider" (.plain .boolean) <|
    .optional "documentLinkProvider" (.nested CodeLensOptions.schema) <|
    .optional "executeCommandProvider" (.nested ExecuteCommandOptions.schema) <|
    .optional "experimental" (.plain .object) <|
    .nil

instance : Content ServerCapabilities where
  schema := ServerCapabilities.schema
  pack x := (packSome x.textDocumentSync, x.hoverProvider, packSome x.completionProvider,
    packSome x.signatureHelpProvider, x.definitionProvider, x.referencesProvider,
    x.documentHighlightProvider, x.documentSymbolProvider, x.workspaceSymbolProvider,
    x.codeActionProvider, packSome x.codeLensProvider, x.documentFormattingProvider,
    x.documentRangeFormattingProvider, packSome x.documentOnTypeFormattingProvider,
    x.renameProvider, packSome x.documentLinkProvider, packSome x.executeCommandProvider,
    x.experimental, ())
  unpack := fun (textDocumentSync, hoverProvider, completionProvider, signatureHelpProvider,
    definitionProvider, referencesProvider, documentHighlightProvider, documentSymbolProvider,
    workspaceSymbolProvider, codeActionProvider, codeLensProvider, documentFormattingProvider,
    documentRangeFormattingProvider, documentOnTypeFormattingProvider, renameProvider,
    documentLinkProvider, executeCommandProvider, experimental, _) =>
    { textDocumentSync := unpackSome textDocumentSync, hoverProvider,
      completionProvider := unpackSome completionProvider,
      signatureHelpProvider := unpackSome signatureHelpProvider, definitionProvider,
      referencesProvider, documentHighlightProvider, documentSymbolProvider,
      workspaceSymbolProvider, codeActionProvider, codeLensProvider := unpackSome codeLensProvider,
      documentFormattingProvider, documentRangeFormattingProvider,
      documentOnTypeFormattingProvider := unpackSome documentOnTypeFormattingProvider,
      renameProvider, documentLinkProvider := unpackSome documentLinkProvider,
      executeCommandProvider := unpackSome executeCommandProvider, experimental }
  unpack_pack _ := by simp
  pack_unpack := fun (_, _) => by simp; rfl

end LanguageServer
