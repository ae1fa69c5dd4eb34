import LanguageServer.Log.Config
import LanguageServer.Log.Filter

/-! The lines of a log, one for each event, and the filter that picks the events. -/

namespace LanguageServer.Log

namespace Event

/-- What an event tells, by keys. -/
def fields (e : Event) : Json.Members :=
  ("message", .str e.message) ::
    match e.traffic? with
    | some (direction, label) => [("direction", .str direction), ("method", .str label)]
    | none => []

/-- An event as a JSON object. -/
def toJson (e : Event) : Json :=
  .obj [("level", .str e.level.name), ("fields", .obj e.fields), ("target", .str e.part)]

end Event

/-- The line of an event, without its line break. -/
def Config.line (c : Config) (e : Event) : String :=
  if c.json then e.toJson.compact else s!"{e.level.name} {e.part}: {e.message}"

/-- The filter of the configuration; none if its text would have to be cut inside a character. -/
def Config.filter? (c : Config) : Option Filter := Filter.ofText? c.level

example : Config.line { json := true } (.replaying "stdin") =
    "\x7b\"level\":\"INFO\",\"fields\":\x7b\"message\":\"Replaying stdin\"\x7d," ++
      "\"target\":\"lsp_replay\"\x7d" := by decide +kernel

end LanguageServer.Log
