import LanguageServer.Log.Path

/-! How a program logs: from which level on, where to, and in which form. -/

namespace LanguageServer.Log

/-- The configuration of the log. -/
structure Config where
  /-- Which events are logged, as a filter. -/
  level : String := "info"
  /-- The file to log to; without one, the log goes to the standard error. -/
  file : Option String := none
  /-- Each event is a JSON object on a line of its own. -/
  json : Bool := false
deriving DecidableEq

namespace Config

/-- The configuration where nothing is set. -/
def default : Config := {}

/-- A setting that is on. -/
def isOn (setting : String → Option String) (name : String) : Bool := setting name == some "true"

/-- The configuration that the variables of the environment set. `process` marks the file if it is to be the
    process's own. -/
def ofEnvironment (setting : String → Option String) (process : String) : Config where
  level := (setting "RUST_LOG").getD "info"
  file := (setting "LSP_LOG_FILE").map fun path =>
    if isOn setting "LSP_LOG_UNIQUE" then Path.mark path process else path
  json := isOn setting "LSP_LOG_JSON"

/-- The configuration with a level and a file in place of its own. -/
def override (c : Config) (level file : Option String) : Config :=
  { c with level := level.getD c.level, file := file.or c.file }

end Config

end LanguageServer.Log
