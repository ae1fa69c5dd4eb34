import LanguageServer.Content

/-! Folders of the workspace and the configuration of the client. -/

namespace LanguageServer

open Content

/-- A folder of the workspace, with the name it is shown under. -/
structure WorkspaceFolder where
  uri : Uri
  name : String
deriving DecidableEq

/-- The form of `WorkspaceFolder`. -/
def WorkspaceFolder.schema : Schema :=
  .record "WorkspaceFolder" <|
    .required "uri" (.plain .uri) <|
    .required "name" (.plain .string) <|
    .nil

instance : Content WorkspaceFolder where
  schema := WorkspaceFolder.schema
  pack x := (x.uri, x.name, ())
  unpack := fun (uri, name, _) => { uri, name }
  unpack_pack _ := rfl
  pack_unpack _ := rfl

/-- A section of the configuration, as it holds for a resource. -/
structure ConfigurationItem where
  scopeUri : Option Uri := none
  sectionName : Option String := none
deriving DecidableEq

/-- The form of `ConfigurationItem`. -/
def ConfigurationItem.schema : Schema :=
  .record "ConfigurationItem" <|
    .optional "scopeUri" (.plain .uri) <|
    .optional "section" (.plain .string) <|
    .nil

instance : Content ConfigurationItem where
  schema := ConfigurationItem.schema
  pack x := (x.scopeUri, x.sectionName, ())
  unpack := fun (scopeUri, sectionName, _) => { scopeUri, sectionName }
  unpack_pack _ := rfl
  pack_unpack _ := rfl

/-- Which values do some sections have? The answer has one value for each. -/
structure ConfigurationParams where
  items : List ConfigurationItem
deriving DecidableEq

/-- The form of `ConfigurationParams`. -/
def ConfigurationParams.schema : Schema :=
  .record "ConfigurationParams" <|
    .required "items" (.many ConfigurationItem.schema) <|
    .nil

instance : Content ConfigurationParams where
  schema := ConfigurationParams.schema
  pack x := (packMany x.items, ())
  unpack := fun (items, _) => { items := unpackMany items }
  unpack_pack _ := by simp
  pack_unpack := fun (_, _) => by simp; rfl

/-- The configuration was changed; what it looks like is for the client to say. -/
structure DidChangeConfigurationParams where
  settings : Json
deriving DecidableEq

/-- The form of `DidChangeConfigurationParams`. -/
def DidChangeConfigurationParams.schema : Schema :=
  .record "DidChangeConfigurationParams" <|
    .required "settings" .free <|
    .nil

instance : Content DidChangeConfigurationParams where
  schema := DidChangeConfigurationParams.schema
  pack x := (x.settings, ())
  unpack := fun (settings, _) => { settings }
  unpack_pack _ := rfl
  pack_unpack _ := rfl

end LanguageServer
