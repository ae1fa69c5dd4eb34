import LanguageServer.Program

/-! The command line of the replay program: it looks at its surroundings, asks `Program.run` what to do, and
    does it. -/

namespace LanguageServer.Program

/-- The variables of the environment that the program reads. -/
def settingNames : List String := ["RUST_LOG", "LSP_LOG_FILE", "LSP_LOG_UNIQUE", "LSP_LOG_JSON"]

/-- The values of the variables that are set. -/
def readSettings : IO (List (String × String)) :=
  settingNames.filterMapM fun name => do return (← IO.getEnv name).map (name, ·)

/-- The number of the process, as the system shows it to the process itself. -/
def readProcess : IO String := do
  try
    let status ← IO.FS.readFile "/proc/self/stat"
    return String.ofList (status.toList.takeWhile (·.isDigit))
  catch _ => return "0"

/-- The result of an action, or nothing if it fails. -/
def attempt {α : Type} (action : IO α) : IO (Option α) := do
  try return some (← action) catch _ => return none

/-- Everything that a stream still gives. -/
partial def readAll (stream : IO.FS.Stream) (before : ByteArray) : IO ByteArray := do
  let chunk ← stream.read 65536
  if chunk.isEmpty then return before else readAll stream (before ++ chunk)

/-- The bytes of the recording that the options name, if it can be read. -/
def readRecording (o : CommandLine.Options) : IO (Option ByteArray) :=
  attempt <|
    match o.input with
    | some path => IO.FS.readBinFile path
    | none => do readAll (← IO.getStdin) .empty

/-- Does what the program has to do in its surroundings, with the log open at a stream. -/
def perform (w : Surroundings) (log : IO.FS.Stream) : IO UInt32 := do
  let result := run w
  let output ← IO.getStdout
  output.write result.output
  output.flush
  if let some logged := result.log then
    for event in logged.events do
      log.putStrLn (logged.config.line event)
    log.flush
  return UInt32.ofNat result.code

end LanguageServer.Program

open LanguageServer LanguageServer.Program in
/-- Runs the replay program. -/
def main (arguments : List String) : IO UInt32 := do
  let settings ← readSettings
  let surroundings : Surroundings :=
    { arguments
      setting := fun name => List.lookup name settings
      process := ← readProcess
      standardInput := []
      file := fun _ => none
      appendable := fun _ => true }
  match CommandLine.parse arguments with
  | none =>
    IO.eprintln "usage: [--input FILE] [--pretty] [--log-level LEVEL] [--log-file FILE]"
    perform surroundings (← IO.getStderr)
  | some o =>
    let c := config surroundings o
    if c.filter?.isNone then
      IO.eprintln "the filter of the log cannot be read"
      return ← perform surroundings (← IO.getStderr)
    let log ←
      match c.file with
      | none => some <$> IO.getStderr
      | some path => attempt (.ofHandle <$> IO.FS.Handle.mk path .append)
    match log with
    | none =>
      IO.eprintln "the log cannot be opened"
      perform { surroundings with appendable := fun _ => false } (← IO.getStderr)
    | some log =>
      let bytes := (← readRecording o).map (·.toList)
      perform
        { surroundings with
          standardInput := bytes.getD []
          file := fun _ => bytes }
        log
