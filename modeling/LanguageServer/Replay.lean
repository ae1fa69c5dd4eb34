import LanguageServer.Dispatch
import LanguageServer.Replay.Lines
import LanguageServer.Replay.Sink

/-! Replaying a recording: each line is a payload to a server. The payload of a line is dispatched, and then
    everything that is queued is written out, one message after the other with a line break behind each. So
    what is written answers the lines in their order. -/

namespace LanguageServer.Replay

/-- Why a replay stops. -/
inductive Failure where
  /-- A line is not UTF-8. -/
  | badLine
  /-- The sink is full inside a message. -/
  | fullInMessage
  /-- The sink is full at the line break behind a message. -/
  | fullAtBreak
deriving DecidableEq

/-- The wording of a failure. -/
def Failure.message : Failure → String
  | badLine => "I/O error: stream did not contain valid UTF-8"
  | fullInMessage => "failed to encode outbound message: sink full"
  | fullAtBreak => "I/O error: sink full"

/-- How a message is written. -/
inductive Format where
  | compact
  | pretty
deriving DecidableEq

/-- The text of a message in a format. -/
def Format.text (f : Format) (m : Message) : String :=
  match f with
  | .compact => m.write.compact
  | .pretty => m.write.pretty

/-- How many lines had a payload, how many of these were no message, and how many messages were written. -/
structure Summary where
  lines : Nat := 0
  rejected : Nat := 0
  written : Nat := 0
deriving DecidableEq

/-- A replay under way. -/
structure State (σ ρ : Type) where
  peer : Peer σ ρ
  summary : Summary := {}
  sink : Sink := {}
  events : List Log.Event := []

/-- Writes messages, each with a line break behind it. -/
def writeMessages (f : Format) : List Message → Sink → Option Failure × Sink
  | [], sink => (none, sink)
  | m :: rest, sink =>
    match sink.write (f.text m) with
    | (false, sink) => (some .fullInMessage, sink)
    | (true, sink) =>
      match sink.write "\n" with
      | (false, sink) => (some .fullAtBreak, sink)
      | (true, sink) => writeMessages f rest sink

variable {σ ρ : Type}

/-- Dispatches a payload and writes out what is queued then. -/
def takePayload (s : Server σ) (f : Format) (payload : String) (st : State σ ρ) :
    Option Failure × State σ ρ :=
  let count := st.summary.lines + 1
  let (kind, effect) := dispatch payload s st.peer
  let (rejected, rejection) :=
    match kind with
    | .ok _ => (st.summary.rejected, [])
    | .error failure => (st.summary.rejected + 1, [.lineRejected count failure])
  let (messages, outbox) := effect.peer.outbox.flush
  let (failure, sink) := writeMessages f messages st.sink
  (failure,
    { peer := { effect.peer with outbox }
      summary := { lines := count, rejected, written := st.summary.written + messages.length }
      sink
      events := st.events ++ effect.events ++ rejection ++ effect.peer.outbox.flushEvents })

/-- Takes one line. -/
def takeLine (s : Server σ) (f : Format) (line : Line) (st : State σ ρ) :
    Option Failure × State σ ρ :=
  match line with
  | none => (some .badLine, st)
  | some text =>
    match payload? text with
    | none => (none, st)
    | some payload => takePayload s f payload st

/-- Takes lines one after the other, up to the first that fails. -/
def takeLines (s : Server σ) (f : Format) : List Line → State σ ρ → Option Failure × State σ ρ
  | [], st => (none, st)
  | line :: rest, st =>
    match takeLine s f line st with
    | (some failure, st) => (some failure, st)
    | (none, st) => takeLines s f rest st

/-- Replays the lines of a recording, and logs how it went if all were taken. -/
def run (s : Server σ) (f : Format) (lines : List Line) (st : State σ ρ) :
    Option Failure × State σ ρ :=
  match takeLines s f lines st with
  | (some failure, st) => (some failure, st)
  | (none, st) =>
    (none,
      { st with
        events := st.events ++
          [.timing, .replayed st.summary.lines st.summary.rejected st.summary.written] })

end LanguageServer.Replay
