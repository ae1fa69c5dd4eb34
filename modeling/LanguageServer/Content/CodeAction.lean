import LanguageServer.Content.Command
import LanguageServer.Content.Diagnostic
import LanguageServer.Content.TextDocument

/-! Code actions, which are commands offered for a range, and code lenses, which are commands shown in the
    text. -/

namespace LanguageServer

open Content

/-- The diagnostics that overlap a range. -/
structure CodeActionContext where
  diagnostics : List Diagnostic
deriving DecidableEq

/-- The form of `CodeActionContext`. -/
def CodeActionContext.schema : Schema :=
  .record "CodeActionContext" <|
    .required "diagnostics" (.many Diagnostic.schema) <|
    .nil

instance : Content CodeActionContext where
  schema := CodeActionContext.schema
  pack x := (packMany x.diagnostics, ())
  unpack := fun (diagnostics, _) => { diagnostics := unpackMany diagnostics }
  unpack_pack _ := by simp
  pack_unpack := fun (_, _) => by simp; rfl

/-- Which commands does a range offer? -/
structure CodeActionParams where
  textDocument : TextDocumentIdentifier
  range : Range
  context : CodeActionContext
deriving DecidableEq

/-- The form of `CodeActionParams`. -/
def CodeActionParams.schema : Schema :=
  .record "CodeActionParams" <|
    .required "textDocument" (.nested TextDocumentIdentifier.schema) <|
    .required "range" (.nested Range.schema) <|
    .required "context" (.nested CodeActionContext.schema) <|
    .nil

instance : Content CodeActionParams where
  schema := CodeActionParams.schema
  pack x := (pack x.textDocument, pack x.range, pack x.context, ())
  unpack := fun (textDocument, range, context, _) =>
    { textDocument := unpack textDocument, range := unpack range, context := unpack context }
  unpack_pack _ := by simp
  pack_unpack := fun (_, _) => by simp; rfl

/-- Which lenses does a document have? -/
structure CodeLensParams where
  textDocument : TextDocumentIdentifier
deriving DecidableEq

/-- The form of `CodeLensParams`. -/
def CodeLensParams.schema : Schema :=
  .record "CodeLensParams" <|
    .required "textDocument" (.nested TextDocumentIdentifier.schema) <|
    .nil

instance : Content CodeLensParams where
  schema := CodeLensParams.schema
  pack x := (pack x.textDocument, ())
  unpack := fun (textDocument, _) => { textDocument := unpack textDocument }
  unpack_pack _ := rfl
  pack_unpack _ := rfl

/-- A command shown at a range. Without its command it is not resolved yet, and `data` tells how to. -/
structure CodeLens where
  range : Range
  command : Option Command := none
  data : Option Json := none
deriving DecidableEq

/-- The form of `CodeLens`. -/
def CodeLens.schema : Schema :=
  .record "CodeLens" <|
    .required "range" (.nested Range.schema) <|
    .optional "command" (.nested Command.schema) <|
    .optional "data" .free <|
    .nil

instance : Content CodeLens where
  schema := CodeLens.schema
  pack x := (pack x.range, packSome x.command, x.data, ())
  unpack := fun (range, command, data, _) =>
    { range := unpack range, command := unpackSome command, data }
  unpack_pack _ := by simp
  pack_unpack := fun (_, _) => by simp; rfl

namespace CodeLens

/-- A lens that is not resolved. -/
def new (range : Range) : CodeLens := { range }

/-- The lens with its command. -/
def withCommand (l : CodeLens) (command : Command) : CodeLens := { l with command := some command }

/-- The lens with data. -/
def withData (l : CodeLens) (data : Json) : CodeLens := { l with data := some data }

/-- The lens has its command. -/
def isResolved (l : CodeLens) : Bool := l.command.isSome

end CodeLens

end LanguageServer
