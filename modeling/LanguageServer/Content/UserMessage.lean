import LanguageServer.Content

/-! Messages that a client shows or logs. -/

namespace LanguageServer

open Content

/-- How grave a message is. -/
inductive MessageType where
  | error
  | warning
  | info
  | log
deriving DecidableEq

namespace MessageType

/-- Every value, in the order of the numbers. -/
def all : List MessageType := [.error, .warning, .info, .log]

/-- The number that stands for a value. -/
def number : MessageType → Int
  | .error => 1
  | .warning => 2
  | .info => 3
  | .log => 4

/-- The name of a value. -/
def name : MessageType → String
  | .error => "Error"
  | .warning => "Warning"
  | .info => "Info"
  | .log => "Log"

/-- The value that a number stands for. -/
def ofNumber? (n : Int) : Option MessageType := all.find? (·.number = n)

/-- The place of a value among all. -/
def place : MessageType → Nat
  | .error => 0
  | .warning => 1
  | .info => 2
  | .log => 3

/-- The form of `MessageType`. -/
def schema : Schema := .enumeration "MessageType" (all.map fun x => (x.name, x.number))

end MessageType

instance : Content MessageType where
  schema := MessageType.schema
  pack x := ⟨x.place, by cases x <;> decide⟩
  unpack i := MessageType.all.get i
  unpack_pack x := by cases x <;> rfl
  pack_unpack := (by decide : ∀ i : Fin 4, (⟨(MessageType.all.get i).place, _⟩ : Fin 4) = i)

/-- A message to show. -/
structure ShowMessageParams where
  kind : MessageType
  message : String
deriving DecidableEq

/-- The form of `ShowMessageParams`. -/
def ShowMessageParams.schema : Schema :=
  .record "ShowMessageParams" <|
    .required "type" (.nested MessageType.schema) <|
    .required "message" (.plain .string) <|
    .nil

instance : Content ShowMessageParams where
  schema := ShowMessageParams.schema
  pack x := (pack x.kind, x.message, ())
  unpack := fun (kind, message, _) => { kind := unpack kind, message }
  unpack_pack _ := by simp
  pack_unpack := fun (_, _) => by simp; rfl

/-- A button of a message. -/
structure MessageActionItem where
  title : String
deriving DecidableEq

/-- The form of `MessageActionItem`. -/
def MessageActionItem.schema : Schema :=
  .record "MessageActionItem" <|
    .required "title" (.plain .string) <|
    .nil

instance : Content MessageActionItem where
  schema := MessageActionItem.schema
  pack x := (x.title, ())
  unpack := fun (title, _) => { title }
  unpack_pack _ := rfl
  pack_unpack _ := rfl

/-- A message to show, with buttons to choose from. -/
structure ShowMessageRequestParams where
  kind : MessageType
  message : String
  actions : Option (List MessageActionItem) := none
deriving DecidableEq

/-- The form of `ShowMessageRequestParams`. -/
def ShowMessageRequestParams.schema : Schema :=
  .record "ShowMessageRequestParams" <|
    .required "type" (.nested MessageType.schema) <|
    .required "message" (.plain .string) <|
    .optional "actions" (.many MessageActionItem.schema) <|
    .nil

instance : Content ShowMessageRequestParams where
  schema := ShowMessageRequestParams.schema
  pack x := (pack x.kind, x.message, packSome x.actions, ())
  unpack := fun (kind, message, actions, _) =>
    { kind := unpack kind, message, actions := unpackSome actions }
  unpack_pack _ := by simp
  pack_unpack := fun (_, _) => by simp; rfl

namespace ShowMessageRequestParams

/-- A message without buttons. -/
def new (kind : MessageType) (message : String) : ShowMessageRequestParams := { kind, message }

/-- One button more, behind those there are. -/
def addAction (p : ShowMessageRequestParams) (action : MessageActionItem) :
    ShowMessageRequestParams :=
  { p with actions := some (p.actions.getD [] ++ [action]) }

end ShowMessageRequestParams

/-- A message to log. -/
structure LogMessageParams where
  kind : MessageType
  message : String
deriving DecidableEq

/-- The form of `LogMessageParams`. -/
def LogMessageParams.schema : Schema :=
  .record "LogMessageParams" <|
    .required "type" (.nested MessageType.schema) <|
    .required "message" (.plain .string) <|
    .nil

instance : Content LogMessageParams where
  schema := LogMessageParams.schema
  pack x := (pack x.kind, x.message, ())
  unpack := fun (kind, message, _) => { kind := unpack kind, message }
  unpack_pack _ := by simp
  pack_unpack := fun (_, _) => by simp; rfl

end LanguageServer
