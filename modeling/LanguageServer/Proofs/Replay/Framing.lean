import LanguageServer.Proofs.Json.Text
import LanguageServer.Proofs.Replay.Course
import LanguageServer.Proofs.Replay.Lines
import LanguageServer.Server.Quiet
import LanguageServer.Server.Recorder

/-! What a replay writes, on lines or indented. How messages are written changes nothing else about a
    replay. On lines, each message has one of its own, whatever its ids, names and texts hold, so the output
    is itself a recording: parted into lines, it gives the messages back. On indented lines, each message
    has the same value (`run_framed`). -/

namespace LanguageServer.Replay

variable {σ ρ : Type}

/-- The line of a message. -/
def TextLine.ofMessage (m : Message) : TextLine :=
  ⟨m.text, fun h => absurd (Json.printable_compact m.write '\n' h) (by decide)⟩

/-- What is written on lines is a recording of the messages. -/
theorem recording_ofMessage (ms : List Message) :
    (Format.compact.bytes ms).data.toList = recording (ms.map .ofMessage) := by
  induction ms with
  | nil => rfl
  | cons m ms ih =>
    have hfeed : "\n".toUTF8.data.toList = [10] := rfl
    rw [Format.bytes_cons, List.map_cons, recording, List.flatMap_cons, ← recording, ← ih]
    simp only [ByteArray.data_append, Array.toList_append, hfeed]
    rfl

/-- Of every server, every peer and all lines. Both replays end alike, they write the same messages, and the
    peer is the same after them. On lines, the output is parted into the texts of the messages again; on
    indented lines, each message is read as the same value, or refused as well, and it is not refused if it
    is nested no deeper than a text may be and its numbers are such as a text can hold. -/
theorem run_framed (s : Server σ) (p : Peer σ ρ) (ls : List Line) :
    let messages := (p.receiveAll s (payloads ls)).1
    ∃ compact pretty : State σ ρ,
      run s .compact ls { peer := p } = (failure? ls, compact) ∧
      run s .pretty ls { peer := p } = (failure? ls, pretty) ∧
      pretty.peer = compact.peer ∧ pretty.summary = compact.summary ∧
      compact.summary.written = messages.length ∧
      compact.sink.written = (String.join (messages.map fun m => m.text ++ "\n")).toUTF8 ∧
      pretty.sink.written = (String.join (messages.map fun m => m.write.pretty ++ "\n")).toUTF8 ∧
      lines compact.sink.written.data.toList = messages.map (fun m => some m.text) ∧
      (∀ m ∈ messages, ∀ c ∈ m.text.toList, Json.Printable c) ∧
      ∀ m ∈ messages, Json.read m.write.pretty = Json.read m.text ∧
        (m.write.depth ≤ Json.Reader.maxDepth → (∀ n ∈ m.write.numbers, n.Canonical) →
          ∃ v, Json.read m.text = .ok v ∧ Json.read m.write.pretty = .ok v) := by
  intro messages
  have hroom : ({ peer := p } : State σ ρ).sink.room = none := rfl
  obtain ⟨hcompact, course⟩ := course_run s .compact hroom ls
  obtain ⟨hpretty, course'⟩ := course_run s .pretty hroom ls
  have hsummary : (run s .compact ls { peer := p }).2.summary = .ofPayloads (payloads ls) messages :=
    course.summary.trans (Summary.empty_add _)
  have hwritten : (run s .compact ls { peer := p }).2.sink.written = Format.compact.bytes messages := by
    rw [course.sink]
    exact ByteArray.empty_append
  refine ⟨_, _, Prod.ext hcompact rfl, Prod.ext hpretty rfl, ?_, ?_, ?_, hwritten, ?_, ?_, ?_, ?_⟩
  · rw [course'.peer, course.peer]
  · rw [course'.summary, course.summary]
  · rw [hsummary]
    rfl
  · rw [course'.sink]
    exact ByteArray.empty_append
  · rw [hwritten, recording_ofMessage, lines_recording, List.map_map]
    rfl
  · exact fun m _ => Json.printable_compact m.write
  · exact fun m _ => ⟨Json.read_pretty m.write, fun hd hn => Json.read_texts hd hn⟩

/-- A request whose id has a line break in it fails with a line break in its message and its data. -/
theorem run_framed_recorder :
    let down := (Exception.internal "down\n").withData (.arr [.num (.float 0x3FB999999999999A), .str "\n"])
    let p : Peer Record Empty := ⟨Record.empty.failing "shutdown" down, .empty⟩
    let line := "\x7b\"jsonrpc\":\"2.0\",\"id\":\"a\\nb\",\"method\":\"shutdown\"\x7d"
    let answer : Message := .response (.failure (some (.name "a\nb")) (.ofException down))
    answer.write.depth ≤ Json.Reader.maxDepth ∧ (∀ n ∈ answer.write.numbers, n.Canonical) ∧
      (∃ st, run .recorder .compact [some line] { peer := p } = (none, st) ∧
        lines st.sink.written.data.toList = [some answer.text]) ∧
      ∃ v, Json.read answer.text = .ok v ∧ Json.read answer.write.pretty = .ok v := by
  intro down p line answer
  have hdepth : answer.write.depth ≤ Json.Reader.maxDepth := by decide +kernel
  have hnumbers : ∀ n ∈ answer.write.numbers, n.Canonical := by decide +kernel
  have hmessages : (p.receiveAll .recorder (payloads [some line])).1 = [answer] := by decide +kernel
  obtain ⟨st, -, hrun, -, -, -, -, -, -, hlines, -, hread⟩ := run_framed .recorder p [some line]
  rw [hmessages] at hlines hread
  obtain ⟨-, hboth⟩ := hread answer (List.mem_singleton_self _)
  exact ⟨hdepth, hnumbers, ⟨st, hrun, hlines⟩, hboth hdepth hnumbers⟩

end LanguageServer.Replay
