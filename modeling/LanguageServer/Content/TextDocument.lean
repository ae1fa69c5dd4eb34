import LanguageServer.Content.Position

/-! Text documents and their life at the server: opened, changed, saved and closed. -/

namespace LanguageServer

open Content

/-- A document by its URI. -/
structure TextDocumentIdentifier where
  uri : Uri
deriving DecidableEq

/-- The form of `TextDocumentIdentifier`. -/
def TextDocumentIdentifier.schema : Schema :=
  .record "TextDocumentIdentifier" <|
    .required "uri" (.plain .uri) <|
    .nil

instance : Content TextDocumentIdentifier where
  schema := TextDocumentIdentifier.schema
  pack x := (x.uri, ())
  unpack := fun (uri, _) => { uri }
  unpack_pack _ := rfl
  pack_unpack _ := rfl

/-- A certain version of a document. -/
structure VersionedTextDocumentIdentifier where
  uri : Uri
  version : Int32
deriving DecidableEq

/-- The form of `VersionedTextDocumentIdentifier`. -/
def VersionedTextDocumentIdentifier.schema : Schema :=
  .record "VersionedTextDocumentIdentifier" <|
    .required "uri" (.plain .uri) <|
    .required "version" (.plain .integer) <|
    .nil

instance : Content VersionedTextDocumentIdentifier where
  schema := VersionedTextDocumentIdentifier.schema
  pack x := (x.uri, x.version, ())
  unpack := fun (uri, version, _) => { uri, version }
  unpack_pack _ := rfl
  pack_unpack _ := rfl

/-- A document with its text. -/
structure TextDocumentItem where
  uri : Uri
  languageId : String
  version : Int32
  text : String
deriving DecidableEq

/-- The form of `TextDocumentItem`. -/
def TextDocumentItem.schema : Schema :=
  .record "TextDocumentItem" <|
    .required "uri" (.plain .uri) <|
    .required "languageId" (.plain .string) <|
    .required "version" (.plain .integer) <|
    .required "text" (.plain .string) <|
    .nil

instance : Content TextDocumentItem where
  schema := TextDocumentItem.schema
  pack x := (x.uri, x.languageId, x.version, x.text, ())
  unpack := fun (uri, languageId, version, text, _) => { uri, languageId, version, text }
  unpack_pack _ := rfl
  pack_unpack _ := rfl

/-- A position in a document, as the params of hover and definition requests. -/
structure TextDocumentPositionParams where
  textDocument : TextDocumentIdentifier
  position : Position
deriving DecidableEq

/-- The form of `TextDocumentPositionParams`. -/
def TextDocumentPositionParams.schema : Schema :=
  .record "TextDocumentPositionParams" <|
    .required "textDocument" (.nested TextDocumentIdentifier.schema) <|
    .required "position" (.nested Position.schema) <|
    .nil

instance : Content TextDocumentPositionParams where
  schema := TextDocumentPositionParams.schema
  pack x := (pack x.textDocument, pack x.position, ())
  unpack := fun (textDocument, position, _) =>
    { textDocument := unpack textDocument, position := unpack position }
  unpack_pack _ := rfl
  pack_unpack _ := rfl

/-- A document was opened. -/
structure DidOpenTextDocumentParams where
  textDocument : TextDocumentItem
deriving DecidableEq

/-- The form of `DidOpenTextDocumentParams`. -/
def DidOpenTextDocumentParams.schema : Schema :=
  .record "DidOpenTextDocumentParams" <|
    .required "textDocument" (.nested TextDocumentItem.schema) <|
    .nil

instance : Content DidOpenTextDocumentParams where
  schema := DidOpenTextDocumentParams.schema
  pack x := (pack x.textDocument, ())
  unpack := fun (textDocument, _) => { textDocument := unpack textDocument }
  unpack_pack _ := rfl
  pack_unpack _ := rfl

/-- A change of a document: the new text of a range, or of the whole document if there is no range. The text
    is checked first. -/
structure TextDocumentContentChangeEvent where
  range : Option Range := none
  rangeLength : Option UInt32 := none
  text : String
deriving DecidableEq

/-- The form of `TextDocumentContentChangeEvent`. -/
def TextDocumentContentChangeEvent.schema : Schema :=
  .record "TextDocumentContentChangeEvent" <|
    .optionalLate "range" (.nested Range.schema) <|
    .optionalLate "rangeLength" (.plain .unsigned) <|
    .required "text" (.plain .string) <|
    .nil

instance : Content TextDocumentContentChangeEvent where
  schema := TextDocumentContentChangeEvent.schema
  pack x := (packSome x.range, x.rangeLength, x.text, ())
  unpack := fun (range, rangeLength, text, _) => { range := unpackSome range, rangeLength, text }
  unpack_pack _ := by simp
  pack_unpack := fun (_, _) => by simp; rfl

namespace TextDocumentContentChangeEvent

/-- The new text of the whole document. -/
def full (text : String) : TextDocumentContentChangeEvent := { text }

/-- The new text of a range. -/
def incremental (range : Range) (text : String) : TextDocumentContentChangeEvent :=
  { range := some range, text }

/-- The change replaces the whole document. -/
def isFull (e : TextDocumentContentChangeEvent) : Bool := e.range.isNone

end TextDocumentContentChangeEvent

/-- A document was changed, by some changes one after the other. -/
structure DidChangeTextDocumentParams where
  textDocument : VersionedTextDocumentIdentifier
  contentChanges : List TextDocumentContentChangeEvent
deriving DecidableEq

/-- The form of `DidChangeTextDocumentParams`. -/
def DidChangeTextDocumentParams.schema : Schema :=
  .record "DidChangeTextDocumentParams" <|
    .required "textDocument" (.nested VersionedTextDocumentIdentifier.schema) <|
    .required "contentChanges" (.many TextDocumentContentChangeEvent.schema) <|
    .nil

instance : Content DidChangeTextDocumentParams where
  schema := DidChangeTextDocumentParams.schema
  pack x := (pack x.textDocument, packMany x.contentChanges, ())
  unpack := fun (textDocument, contentChanges, _) =>
    { textDocument := unpack textDocument, contentChanges := unpackMany contentChanges }
  unpack_pack _ := by simp
  pack_unpack := fun (_, _) => by simp; rfl

/-- A document was closed. -/
structure DidCloseTextDocumentParams where
  textDocument : TextDocumentIdentifier
deriving DecidableEq

/-- The form of `DidCloseTextDocumentParams`. -/
def DidCloseTextDocumentParams.schema : Schema :=
  .record "DidCloseTextDocumentParams" <|
    .required "textDocument" (.nested TextDocumentIdentifier.schema) <|
    .nil

instance : Content DidCloseTextDocumentParams where
  schema := DidCloseTextDocumentParams.schema
  pack x := (pack x.textDocument, ())
  unpack := fun (textDocument, _) => { textDocument := unpack textDocument }
  unpack_pack _ := rfl
  pack_unpack _ := rfl

/-- A document was saved, with its text if the server asked for that. -/
structure DidSaveTextDocumentParams where
  textDocument : TextDocumentIdentifier
  text : Option String := none
deriving DecidableEq

/-- The form of `DidSaveTextDocumentParams`. -/
def DidSaveTextDocumentParams.schema : Schema :=
  .record "DidSaveTextDocumentParams" <|
    .required "textDocument" (.nested TextDocumentIdentifier.schema) <|
    .optional "text" (.plain .string) <|
    .nil

instance : Content DidSaveTextDocumentParams where
  schema := DidSaveTextDocumentParams.schema
  pack x := (pack x.textDocument, x.text, ())
  unpack := fun (textDocument, text, _) => { textDocument := unpack textDocument, text }
  unpack_pack _ := rfl
  pack_unpack _ := rfl

end LanguageServer
