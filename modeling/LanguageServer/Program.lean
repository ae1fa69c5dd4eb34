import LanguageServer.CommandLine
import LanguageServer.Log.Line
import LanguageServer.Replay
import LanguageServer.Server.Quiet

/-! The replay program: it replays a recording through the server that does nothing, writes the answers, and
    logs. What it does follows from its surroundings alone. It ends with code 2 for wrong arguments, with
    code 101 if the filter of the log would have to be cut inside a character, with code 1 if the log cannot
    be opened or the recording cannot be read to its end, and with code 0 otherwise. -/

namespace LanguageServer.Program

/-- What the program finds around it. -/
structure Surroundings where
  arguments : List String
  setting : String → Option String
  /-- The process, as it marks a log file of its own. -/
  process : String
  standardInput : List UInt8
  /-- The bytes of a file, if it can be read. -/
  file : String → Option (List UInt8)
  /-- A file can be opened to append to it. -/
  appendable : String → Bool

/-- What is logged, and how. -/
structure Logged where
  config : Log.Config
  events : List Log.Event

/-- What the program does. -/
structure Result where
  code : Nat
  output : ByteArray := .empty
  /-- The log, if it was opened. -/
  log : Option Logged := none

/-- How the log is configured. -/
def config (w : Surroundings) (o : CommandLine.Options) : Log.Config :=
  (Log.Config.ofEnvironment w.setting w.process).override o.logLevel o.logFile

/-- The log can be opened. -/
def canLog (w : Surroundings) (c : Log.Config) : Bool := (c.file.map w.appendable).getD true

/-- The name of the recording, and its bytes if it can be read. -/
def recording (w : Surroundings) (o : CommandLine.Options) : String × Option (List UInt8) :=
  match o.input with
  | some path => (path, w.file path)
  | none => ("stdin", some w.standardInput)

/-- Replays a recording: the exit code, what is written, and what happens. -/
def replay (o : CommandLine.Options) (source : String) (bytes : Option (List UInt8)) :
    Nat × ByteArray × List Log.Event :=
  let opened : Log.Event := .replaying source
  match bytes with
  | none => (1, .empty, [opened])
  | some bytes =>
    let start : Replay.State Unit Empty := { peer := ⟨(), .empty⟩, events := [opened] }
    match Replay.run .quiet (if o.pretty then .pretty else .compact) (Replay.lines bytes) start with
    | (some _, st) => (1, st.sink.written, st.events)
    | (none, st) =>
      (0, st.sink.written,
        st.events ++
          if 0 < st.summary.rejected then
            [.linesRejected st.summary.rejected st.summary.lines] else [])

/-- What the program does in its surroundings. -/
def run (w : Surroundings) : Result :=
  match CommandLine.parse w.arguments with
  | none => { code := 2 }
  | some o =>
    let c := config w o
    match c.filter? with
    | none => { code := 101 }
    | some filter =>
      if canLog w c then
        let (source, bytes) := recording w o
        let (code, output, events) := replay o source bytes
        { code, output, log := some ⟨c, events.filter filter.admits⟩ }
      else { code := 1 }

end LanguageServer.Program
