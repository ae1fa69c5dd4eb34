import LanguageServer.Content

/-! Commands that a client offers to its user, and the request to run one. -/

namespace LanguageServer

open Content

/-- A command with the title it is shown under. -/
structure Command where
  title : String
  command : String
  arguments : Option (List Json) := none
deriving DecidableEq

/-- The form of `Command`. -/
def Command.schema : Schema :=
  .record "Command" <|
    .required "title" (.plain .string) <|
    .required "command" (.plain .string) <|
    .optional "arguments" (.plain .array) <|
    .nil

instance : Content Command where
  schema := Command.schema
  pack x := (x.title, x.command, x.arguments, ())
  unpack := fun (title, command, arguments, _) => { title, command, arguments }
  unpack_pack _ := rfl
  pack_unpack _ := rfl

namespace Command

/-- A command without arguments. -/
def new (title command : String) : Command := { title, command }

/-- The command with arguments. -/
def withArguments (c : Command) (arguments : List Json) : Command :=
  { c with arguments := some arguments }

end Command

/-- A command to run. -/
structure ExecuteCommandParams where
  command : String
  arguments : Option (List Json) := none
deriving DecidableEq

/-- The form of `ExecuteCommandParams`. -/
def ExecuteCommandParams.schema : Schema :=
  .record "ExecuteCommandParams" <|
    .required "command" (.plain .string) <|
    .optional "arguments" (.plain .array) <|
    .nil

instance : Content ExecuteCommandParams where
  schema := ExecuteCommandParams.schema
  pack x := (x.command, x.arguments, ())
  unpack := fun (command, arguments, _) => { command, arguments }
  unpack_pack _ := rfl
  pack_unpack _ := rfl

namespace ExecuteCommandParams

/-- A command to run without arguments. -/
def new (command : String) : ExecuteCommandParams := { command }

/-- The command to run with arguments. -/
def withArguments (p : ExecuteCommandParams) (arguments : List Json) : ExecuteCommandParams :=
  { p with arguments := some arguments }

/-- Runs a command that was offered. -/
def ofCommand (c : Command) : ExecuteCommandParams :=
  { command := c.command, arguments := c.arguments }

end ExecuteCommandParams

end LanguageServer
