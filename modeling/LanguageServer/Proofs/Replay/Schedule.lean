import LanguageServer.Proofs.Replay.Course
import LanguageServer.Proofs.Replay.Lines
import LanguageServer.Server.Quiet
import LanguageServer.Server.Recorder

/-! Writing after every line, or once at the end. A replay writes out what is queued after every line. If
    nothing is queued at the start, only answers ever are, so it writes what would be taken out at the end
    if nothing were written before, and the server remembers the same (`run_scheduled`). Each message is the
    answer to a line of its own, in the order of the lines. -/

namespace LanguageServer.Replay

variable {σ ρ : Type} {s : Server σ} {p : Peer σ ρ}

/-- The payloads of a text: what its lines hold between blanks, the lines of blanks left out. -/
def textPayloads (text : String) : List String :=
  (text.toList.splitOn '\n').filterMap fun line => payload? (String.ofList line)

/-! ### The lines of a text -/

theorem payloads_append (ls : List TextLine) (rest : List Line) :
    payloads (ls.map (fun l => some l.1) ++ rest) = ls.filterMap (fun l => payload? l.1) ++ payloads rest := by
  induction ls with
  | nil => rfl
  | cons l ls ih =>
    rw [List.map_cons, List.cons_append, payloads, ih, List.filterMap_cons]
    cases payload? l.1 <;> rfl

/-- A text has no line that is not UTF-8, and its payloads are those of its lines. -/
theorem payloads_text (text : String) :
    failure? (lines text.toUTF8.data.toList) = none ∧
      payloads (lines text.toUTF8.data.toList) = textPayloads text := by
  obtain ⟨ls, last, hlines, hsplit⟩ := lines_toUTF8 text
  have hempty : payload? "" = none := rfl
  rw [hlines, textPayloads, hsplit, payloads_append, List.filterMap_append, List.filterMap_map]
  refine ⟨?_, ?_⟩
  · by_cases h : last.1 = "" <;> simp [failure?, h]
  · have hls : (fun l : TextLine => payload? l.1) =
        (fun line => payload? (String.ofList line)) ∘ (·.1.toList) := by
      funext l
      simp
    rw [hls]
    refine congrArg _ ?_
    by_cases h : last.1 = ""
    · simp [h, hempty, payloads]
    · cases hp : payload? last.1 <;> simp [h, hp, payloads]

/-! ### Both schedules -/

/-- Of every server, every peer with nothing queued and every text. The replay goes through, and what it
    writes is what would be queued in the end if all payloads were dispatched and nothing were written; the
    server remembers the same. Both are the answers to the payloads that are answered, in their order: each
    payload adds the same answer to what is queued and to what is written, if it adds one, and the answer
    has the id of the payload. -/
theorem run_scheduled (s : Server σ) (f : Format) (p : Peer σ ρ)
    (he : p.outbox.isEmpty = true) (text : String) :
    let raws := textPayloads text
    let answered := s.answered p.memory raws
    let messages := answered.map fun x => Message.response x.2
    (∃ st, run s f (lines text.toUTF8.data.toList) { peer := p } = (none, st) ∧
      st.sink.written = f.bytes messages ∧ st.summary.written = messages.length ∧
      st.peer.memory = (p.dispatchAll s raws).memory) ∧
    (p.dispatchAll s raws).outbox.flush.1 = messages ∧
    (answered.map (·.1)).Sublist raws ∧
    (∀ x ∈ answered, ∃ v, Json.read x.1 = .ok v ∧ x.2.idJson = (v.get? "id").getD .null) ∧
    ∀ front raw, ∃ answer : Option Response,
      s.answered p.memory (front ++ [raw]) = s.answered p.memory front ++ (answer.map (raw, ·)).toList ∧
      (p.dispatchAll s (front ++ [raw])).outbox.flush.1 =
        (p.dispatchAll s front).outbox.flush.1 ++ (answer.map .response).toList ∧
      ((p.receiveAll s front).2.receive s raw).1 = (answer.map .response).toList := by
  intro raws answered messages
  obtain ⟨hfailure, hpayloads⟩ := payloads_text text
  have hroom : ({ peer := p } : State σ ρ).sink.room = none := rfl
  obtain ⟨hrun, hcourse⟩ := course_run s f hroom (lines text.toUTF8.data.toList)
  rw [hpayloads] at hcourse
  obtain ⟨hmessages, -, hmemory⟩ := receiveAll_answered (s := s) raws p he
  have hqueued : ∀ raws, (p.dispatchAll s raws).outbox.flush.1 =
      (s.answered p.memory raws).map fun x => Message.response x.2 := by
    intro raws
    rw [Outbox.flush_eq, (dispatchAll_answered raws p).1.queued he, List.map_map]
    rfl
  refine ⟨⟨_, Prod.ext (hrun.trans hfailure) rfl, ?_, ?_, ?_⟩, hqueued raws, Server.answered_sublist _ raws,
    ?_, ?_⟩
  · rw [hcourse.sink, hmessages]
    exact ByteArray.empty_append
  · rw [hcourse.summary, hmessages, Summary.empty_add]
    rfl
  · rw [hcourse.peer, hmemory, (dispatchAll_answered raws p).2]
  · exact Server.forall_answered (fun _ _ _ => Server.idJson_answer) p.memory raws
  · intro front raw
    obtain ⟨-, hempty, hkept⟩ := receiveAll_answered (s := s) front p he
    have hanswer := (dispatch_answer raw s (p.receiveAll s front).2).1
    rw [hkept] at hanswer
    have hconcat : s.answered p.memory (front ++ [raw]) = s.answered p.memory front ++
        ((s.answer? (front.foldl s.memoryAfter p.memory) raw).map (raw, ·)).toList := by
      rw [Server.answered_append, Server.answered, Server.answered, List.append_nil]
    refine ⟨_, hconcat, ?_, ?_⟩
    · rw [hqueued, hqueued, hconcat, List.map_append]
      cases s.answer? (front.foldl s.memoryAfter p.memory) raw <;> rfl
    · rw [(receive_of_answers hempty hanswer).1]
      cases s.answer? (front.foldl s.memoryAfter p.memory) raw <;> rfl

/-- A request that fails, a line of blanks, a line that is no message, and a notification. -/
theorem run_scheduled_recorder :
    let p : Peer Record Empty := ⟨Record.empty.failing "shutdown" (.internal "down"), .empty⟩
    let text := " \x7b\"jsonrpc\":\"2.0\",\"id\":1,\"method\":\"shutdown\"\x7d\n \n7\n" ++
      "\x7b\"jsonrpc\":\"2.0\",\"method\":\"exit\"\x7d\r"
    let q := p.dispatchAll .recorder (textPayloads text)
    let answer : Message := .response (.failure (some (.number 1)) (.ofException (.internal "down")))
    p.outbox.isEmpty = true ∧
      (∃ st, run .recorder .compact (lines text.toUTF8.data.toList) { peer := p } = (none, st) ∧
        st.sink.written = Format.bytes .compact [answer] ∧ st.peer.memory = q.memory) ∧
      q.outbox.flush.1 = [answer] ∧ q.memory.calls = ["shutdown", "exit"] := by
  intro p text q answer
  obtain ⟨⟨st, hrun, hwritten, -, hmemory⟩, hqueued, -⟩ := run_scheduled .recorder .compact p rfl text
  have hends : q.outbox.flush.1 = [answer] ∧ q.memory.calls = ["shutdown", "exit"] := by decide +kernel
  obtain ⟨hanswer, hcalls⟩ := hends
  refine ⟨rfl, ⟨st, hrun, ?_, hmemory⟩, hanswer, hcalls⟩
  rw [hwritten, ← hanswer, hqueued]

end LanguageServer.Replay
