import LanguageServer.Content.TextDocument

/-! Edits of documents, and edits of a whole workspace. The changes of a workspace edit are kept in the
    order of their keys, which are the texts of URIs, so each document comes once. -/

namespace LanguageServer

open Content

/-- The new text of a range. -/
structure TextEdit where
  range : Range
  newText : String
deriving DecidableEq

/-- The form of `TextEdit`. -/
def TextEdit.schema : Schema :=
  .record "TextEdit" <|
    .required "range" (.nested Range.schema) <|
    .required "newText" (.plain .string) <|
    .nil

instance : Content TextEdit where
  schema := TextEdit.schema
  pack x := (pack x.range, x.newText, ())
  unpack := fun (range, newText, _) => { range := unpack range, newText }
  unpack_pack _ := rfl
  pack_unpack _ := rfl

/-- Edits of a certain version of a document. -/
structure TextDocumentEdit where
  textDocument : VersionedTextDocumentIdentifier
  edits : List TextEdit
deriving DecidableEq

/-- The form of `TextDocumentEdit`. -/
def TextDocumentEdit.schema : Schema :=
  .record "TextDocumentEdit" <|
    .required "textDocument" (.nested VersionedTextDocumentIdentifier.schema) <|
    .required "edits" (.many TextEdit.schema) <|
    .nil

instance : Content TextDocumentEdit where
  schema := TextDocumentEdit.schema
  pack x := (pack x.textDocument, packMany x.edits, ())
  unpack := fun (textDocument, edits, _) =>
    { textDocument := unpack textDocument, edits := unpackMany edits }
  unpack_pack _ := by simp
  pack_unpack := fun (_, _) => by simp; rfl

/-- The edits of some documents, by the texts of their URIs, in the order of these. -/
abbrev Changes := List (String × List TextEdit)

namespace Changes

/-- The edits under a key. -/
def get? (key : String) : Changes → Option (List TextEdit)
  | [] => none
  | (k, edits) :: rest => if k = key then some edits else get? key rest

/-- Adds edits behind those there are under a key. -/
def add (key : String) (edits : List TextEdit) : Changes → Changes
  | [] => [(key, edits)]
  | (k, before) :: rest =>
    if key < k then (key, edits) :: (k, before) :: rest
    else if k = key then (k, before ++ edits) :: rest
    else (k, before) :: add key edits rest

/-- The changes with every edit packed. -/
def pack (changes : Changes) : List (String × List TextEdit.schema.Value) :=
  changes.map fun row => (row.1, packMany row.2)

/-- The changes with every edit unpacked. -/
def unpack (rows : List (String × List TextEdit.schema.Value)) : Changes :=
  rows.map fun row => (row.1, unpackMany row.2)

theorem unpack_pack (changes : Changes) : unpack (pack changes) = changes := by
  simp [unpack, pack, Function.comp_def]

theorem pack_unpack (rows : List (String × List TextEdit.schema.Value)) :
    pack (unpack rows) = rows := by
  induction rows with
  | nil => rfl
  | cons row rows ih =>
    have h : packMany (unpackMany (α := TextEdit) row.2) = row.2 :=
      packMany_unpackMany (α := TextEdit) row.2
    exact congr (congrArg (fun edits => List.cons (row.1, edits)) h) ih

end Changes

/-- Edits of several documents, by document or by version of a document. -/
structure WorkspaceEdit where
  changes : Option Changes := none
  documentChanges : Option (List TextDocumentEdit) := none
deriving DecidableEq

namespace WorkspaceEdit

/-- The form of `WorkspaceEdit`. -/
def schema : Schema :=
  .record "WorkspaceEdit" <|
    .optional "changes" (.table TextEdit.schema) <|
    .optional "documentChanges" (.many TextDocumentEdit.schema) <|
    .nil

/-- Edits of certain versions of documents. -/
def ofDocumentChanges (edits : List TextDocumentEdit) : WorkspaceEdit :=
  { documentChanges := some edits }

/-- Adds edits of a document behind those there are. -/
def addChanges (e : WorkspaceEdit) (uri : Uri) (edits : List TextEdit) : WorkspaceEdit :=
  { e with changes := some (Changes.add uri.text edits (e.changes.getD [])) }

end WorkspaceEdit

instance : Content WorkspaceEdit where
  schema := WorkspaceEdit.schema
  pack x := (x.changes.map Changes.pack, packSome x.documentChanges, ())
  unpack := fun (changes, documentChanges, _) =>
    { changes := changes.map Changes.unpack, documentChanges := unpackSome documentChanges }
  unpack_pack x := by
    simp only [unpackSome_packSome, Option.map_map]
    cases x with
    | mk changes edits => cases changes <;> simp [Changes.unpack_pack]
  pack_unpack v := by
    obtain ⟨rows, edits, _⟩ := v
    cases rows with
    | none =>
      exact congrArg (Prod.mk none)
        (congrArg (Prod.mk · ()) (packSome_unpackSome (α := List TextDocumentEdit) _))
    | some rows =>
      exact congr (congrArg Prod.mk (congrArg some (Changes.pack_unpack rows)))
        (congrArg (Prod.mk · ()) (packSome_unpackSome (α := List TextDocumentEdit) _))

/-- An edit for the client to apply, with a label to undo it by. -/
structure ApplyWorkspaceEditParams where
  label : Option String := none
  edit : WorkspaceEdit
deriving DecidableEq

/-- The form of `ApplyWorkspaceEditParams`. -/
def ApplyWorkspaceEditParams.schema : Schema :=
  .record "ApplyWorkspaceEditParams" <|
    .optional "label" (.plain .string) <|
    .required "edit" (.nested WorkspaceEdit.schema) <|
    .nil

instance : Content ApplyWorkspaceEditParams where
  schema := ApplyWorkspaceEditParams.schema
  pack x := (x.label, pack x.edit, ())
  unpack := fun (label, edit, _) => { label, edit := unpack edit }
  unpack_pack _ := by simp
  pack_unpack := fun (_, _) => by simp; rfl

namespace ApplyWorkspaceEditParams

/-- An edit without a label. -/
def new (edit : WorkspaceEdit) : ApplyWorkspaceEditParams := { edit }

/-- The edit with a label. -/
def withLabel (p : ApplyWorkspaceEditParams) (label : String) : ApplyWorkspaceEditParams :=
  { p with label := some label }

end ApplyWorkspaceEditParams

/-- Whether the client applied an edit, and why not. -/
structure ApplyWorkspaceEditResult where
  applied : Bool
  failureReason : Option String := none
deriving DecidableEq

/-- The form of `ApplyWorkspaceEditResult`. -/
def ApplyWorkspaceEditResult.schema : Schema :=
  .record "ApplyWorkspaceEditResult" <|
    .required "applied" (.plain .boolean) <|
    .optional "failureReason" (.plain .string) <|
    .nil

instance : Content ApplyWorkspaceEditResult where
  schema := ApplyWorkspaceEditResult.schema
  pack x := (x.applied, x.failureReason, ())
  unpack := fun (applied, failureReason, _) => { applied, failureReason }
  unpack_pack _ := rfl
  pack_unpack _ := rfl

end LanguageServer
