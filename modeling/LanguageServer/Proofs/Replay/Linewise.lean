import LanguageServer.Proofs.Replay.Course
import LanguageServer.Proofs.Replay.Lines
import LanguageServer.Server.Quiet

/-! Replaying to the server that does nothing. A replay to the server that does nothing is line by line.
    Behind every line the peer is as it was at the start: the server has no memory, and what was queued is
    flushed, and no callback ever waits. So what is written for a line, and what it adds to the summary, is
    told by the line alone (`replay_eq`), and a replay of some lines and then others is the one replay and
    then the other (`replay_linewise`). -/

namespace LanguageServer.Replay

/-- The peer at the start. -/
def idle : Peer Unit Empty := ⟨(), .empty⟩

/-- What a line holds. -/
def TextLine.payload (l : TextLine) : String := String.ofList (Text.trim l.1.toList)

/-- The line is of blanks alone. -/
def TextLine.isBlank (l : TextLine) : Bool := l.1.toList.all Text.isBlank

/-- What a payload is answered with. -/
def answers (payload : String) : List Message := (dispatch payload .quiet idle).2.peer.outbox.queued

namespace Summary

/-- What lines add up to. -/
def ofLines (ls : List TextLine) : Summary where
  lines := ls.countP fun l => !l.isBlank
  rejected := ls.countP fun l => !l.isBlank && isRejected l.payload
  written := ls.countP fun l => !l.isBlank && !(answers l.payload).isEmpty

end Summary

/-- What comes of a replay. -/
structure Report where
  failure : Option Failure
  output : ByteArray
  summary : Summary

/-- A replay at its start, with a sink that has room for everything. -/
def start : State Unit Empty := { peer := idle }

/-- Replays lines from the start on. -/
def replay (f : Format) (ls : List TextLine) : Report :=
  let (failure, st) := run .quiet f (lines (recording ls)) start
  { failure, output := st.sink.written, summary := st.summary }

/-! ### Payloads -/

theorem payload?_eq (l : TextLine) : payload? l.1 = if l.isBlank then none else some l.payload := by
  have hblank : (Text.trim l.1.toList).isEmpty = l.isBlank := by
    rw [Bool.eq_iff_iff, List.isEmpty_iff, Text.trim_eq_nil_iff, TextLine.isBlank, List.all_eq_true]
  rw [payload?, hblank]
  rfl

/-- A payload is answered once or not at all, and no callback begins to wait. -/
theorem answeredOnce_dispatch (payload : String) :
    idle.outbox.AnsweredOnce (dispatch payload .quiet idle).2.peer.outbox := by
  by_cases hresponse : ∃ r, Message.parse payload = .ok (.response r)
  · obtain ⟨r, hr⟩ := hresponse
    obtain ⟨hout, -⟩ := dispatch_of_response (s := .quiet) (p := idle) hr
    refine Or.inl (hout.trans ?_)
    unfold Outbox.handle
    split <;> rfl
  · exact (dispatch_of_other fun r hr => hresponse ⟨r, hr⟩).2

theorem length_answers_le (payload : String) : (answers payload).length ≤ 1 := by
  unfold answers
  rcases answeredOnce_dispatch payload with h | ⟨r, h⟩
  · rw [h]
    exact Nat.zero_le 1
  · rw [h]
    exact Nat.le_refl 1

/-- What a payload leaves behind is flushed, and then the peer is as it was. -/
theorem flush_dispatch (payload : String) :
    (dispatch payload .quiet idle).2.peer.outbox.flush = (answers payload, .empty) := by
  rw [Outbox.flush_eq, answers]
  rcases answeredOnce_dispatch payload with h | ⟨r, h⟩
  · rw [h]
    rfl
  · rw [h]
    rfl

/-! ### Adding up -/

namespace Summary

theorem ofLines_append (ls ms : List TextLine) : ofLines (ls ++ ms) = ofLines ls + ofLines ms := by
  simp only [ofLines, List.countP_append, add_mk]

theorem ofLines_blank {l : TextLine} (h : l.isBlank = true) : ofLines [l] = {} := by
  simp [ofLines, h]

theorem ofLines_payload {l : TextLine} (h : l.isBlank = false) :
    ofLines [l] = ⟨1, (isRejected l.payload).toNat, (answers l.payload).length⟩ := by
  have hwritten : (!(answers l.payload).isEmpty).toNat = (answers l.payload).length := by
    have hle := length_answers_le l.payload
    match answers l.payload, hle with
    | [], _ => rfl
    | [_], _ => rfl
  rw [← hwritten]
  cases hr : isRejected l.payload <;> cases hw : (answers l.payload).isEmpty <;> simp [ofLines, h, hr, hw]

end Summary

/-- What a line is answered with. -/
def lineAnswers (l : TextLine) : List Message := if l.isBlank then [] else answers l.payload

/-! ### Lines -/

theorem receive_idle (payload : String) : idle.receive .quiet payload = (answers payload, idle) := by
  rw [Peer.receive, flush_dispatch]
  rfl

/-- The peer is idle again behind every payload, so each is answered as it is on its own. -/
theorem receiveAll_idle (raws : List String) : idle.receiveAll .quiet raws = (raws.flatMap answers, idle) := by
  induction raws with
  | nil => rfl
  | cons raw rest ih =>
    rw [Peer.receiveAll, receive_idle]
    dsimp only
    rw [ih]
    rfl

theorem failure?_lines (ls : List TextLine) : failure? (ls.map fun l => some l.1) = none := by
  simp [failure?]

theorem flatMap_answers (ls : List TextLine) :
    (payloads (ls.map fun l => some l.1)).flatMap answers = ls.flatMap lineAnswers := by
  induction ls with
  | nil => rfl
  | cons l ls ih =>
    rw [List.map_cons, payloads, payload?_eq, List.flatMap_append, ih, List.flatMap_cons, lineAnswers]
    split <;> simp

theorem ofPayloads_lines (ls : List TextLine) :
    Summary.ofPayloads (payloads (ls.map fun l => some l.1)) (ls.flatMap lineAnswers) = .ofLines ls := by
  induction ls with
  | nil => rfl
  | cons l ls ih =>
    rw [List.map_cons, payloads, List.flatMap_cons, Summary.ofPayloads_append, ih, ← List.singleton_append,
      Summary.ofLines_append, payload?_eq, lineAnswers]
    refine congrArg (· + Summary.ofLines ls) ?_
    cases hl : l.isBlank with
    | true => exact (Summary.ofLines_blank hl).symm
    | false =>
      rw [Summary.ofLines_payload hl]
      cases h : isRejected l.payload <;> simp [Summary.ofPayloads, h]

/-! ### Replays -/

theorem replay_eq (f : Format) (ls : List TextLine) :
    replay f ls = { failure := none, output := f.bytes (ls.flatMap lineAnswers), summary := .ofLines ls } := by
  have hroom : start.sink.room = none := rfl
  obtain ⟨hfailure, hcourse⟩ := course_run .quiet f hroom (ls.map fun l => some l.1)
  have hreceived : start.peer.receiveAll .quiet (payloads (ls.map fun l => some l.1)) =
      (ls.flatMap lineAnswers, idle) := by
    rw [← flatMap_answers]
    exact receiveAll_idle _
  have hsink := hcourse.sink
  have hsummary := hcourse.summary
  rw [hreceived] at hsink hsummary
  rw [replay, lines_recording]
  generalize run .quiet f (ls.map fun l => some l.1) start = r at hfailure hsink hsummary ⊢
  obtain ⟨failure, st⟩ := r
  dsimp only at hfailure hsink hsummary ⊢
  rw [hfailure, hsink, hsummary, failure?_lines, ofPayloads_lines, start, ByteArray.empty_append,
    Summary.empty_add]

/-- What becomes of one line among others. -/
theorem replay_among (f : Format) (a b : List TextLine) (l : TextLine) :
    replay f (a ++ l :: b) =
      { failure := none
        output := f.bytes (a.flatMap lineAnswers ++ (lineAnswers l ++ b.flatMap lineAnswers))
        summary := .ofLines a + (.ofLines [l] + .ofLines b) } := by
  rw [replay_eq, List.flatMap_append, List.flatMap_cons, Summary.ofLines_append,
    ← Summary.ofLines_append [l] b, List.singleton_append]

/-- Blanks around a line do not matter. -/
theorem payload_of_padded {l padded : TextLine} {front back : List Char}
    (h : padded.1.toList = front ++ l.1.toList ++ back)
    (hblank : ∀ c ∈ front ++ back, Text.isBlank c = true) :
    padded.isBlank = l.isBlank ∧ padded.payload = l.payload := by
  obtain ⟨hfront, hback⟩ := List.forall_mem_append.mp hblank
  refine ⟨?_, ?_⟩
  · have hfront : front.all Text.isBlank = true := List.all_eq_true.mpr hfront
    have hback : back.all Text.isBlank = true := List.all_eq_true.mpr hback
    rw [TextLine.isBlank, h, List.all_append, List.all_append, hfront, hback, Bool.true_and, Bool.and_true]
    rfl
  · rw [TextLine.payload, h, Text.trim_append hfront hback]
    rfl

/-- Of every two recordings: a replay of both is the replay of the first and then that of the second. A line
    of blanks adds nothing, and blanks around a line change nothing. The summary counts the lines that are
    not blank, those whose text without the blanks around it is no message, and those that are answered. -/
theorem replay_linewise (f : Format) :
    (∀ a b : List TextLine,
      (replay f (a ++ b)).failure = none ∧
        (replay f (a ++ b)).output = (replay f a).output ++ (replay f b).output ∧
        (replay f (a ++ b)).summary = (replay f a).summary + (replay f b).summary) ∧
    (∀ (a b : List TextLine) (l : TextLine), l.isBlank = true →
      replay f (a ++ l :: b) = replay f (a ++ b)) ∧
    (∀ (a b : List TextLine) (l padded : TextLine) (front back : List Char),
      padded.1.toList = front ++ l.1.toList ++ back → (∀ c ∈ front ++ back, Text.isBlank c = true) →
        replay f (a ++ padded :: b) = replay f (a ++ l :: b)) ∧
    ∀ a : List TextLine,
      (replay f a).summary.lines = a.countP (fun l => !l.isBlank) ∧
        (replay f a).summary.rejected =
          a.countP (fun l => !l.isBlank && !(Message.parse l.payload).isOk) ∧
        (replay f a).summary.written =
          a.countP (fun l => !l.isBlank && !(dispatch l.payload .quiet idle).2.peer.outbox.isEmpty) ∧
        (replay f a).summary.written ≤ (replay f a).summary.lines := by
  refine ⟨fun a b => ?_, fun a b l hl => ?_, fun a b l padded front back hl hblank => ?_, fun a => ?_⟩
  · simp only [replay_eq, List.flatMap_append, Format.bytes_append, Summary.ofLines_append, and_self]
  · have hanswers : lineAnswers l = [] := if_pos hl
    rw [replay_among, replay_eq, hanswers, Summary.ofLines_blank hl, Summary.empty_add, List.nil_append,
      List.flatMap_append, Summary.ofLines_append]
  · obtain ⟨hisBlank, hpayload⟩ := payload_of_padded hl hblank
    have hanswers : lineAnswers padded = lineAnswers l := by
      rw [lineAnswers, hisBlank, hpayload, lineAnswers]
    have hsummary : Summary.ofLines [padded] = Summary.ofLines [l] := by
      simp only [Summary.ofLines, List.countP_cons, hisBlank, hpayload]
    rw [replay_among, replay_among, hanswers, hsummary]
  · rw [replay_eq]
    refine ⟨rfl, rfl, ?_, ?_⟩
    · simp only [Summary.ofLines, answers, Outbox.isEmpty_queued]
    · refine List.countP_mono_left fun l _ h => ?_
      exact (Bool.and_eq_true_iff.mp h).1

/-- A line that is no message, with blanks around it, behind a line of blanks. -/
theorem replay_linewise_padded :
    let blank : TextLine := ⟨" \t", by decide⟩
    let line : TextLine := ⟨"7", by decide⟩
    let padded : TextLine := ⟨" 7\r", by decide⟩
    blank.isBlank = true ∧ (∀ c ∈ [' ', '\r'], Text.isBlank c = true) ∧
      replay .compact [blank, padded] = replay .compact [line] ∧
      (replay .compact [line]).summary.lines = 1 ∧ (replay .compact [line]).summary.rejected = 1 ∧
      (replay .compact [line]).summary.written = 0 := by
  intro blank line padded
  obtain ⟨-, hblank, hpadded, hcount⟩ := replay_linewise .compact
  have hisBlank : blank.isBlank = true := by decide
  have hchars : ∀ c ∈ [' ', '\r'], Text.isBlank c = true := List.all_eq_true.mp (by decide)
  obtain ⟨hlines, hrejected, hwritten, -⟩ := hcount [line]
  have hone : [line].countP (fun l => !l.isBlank) = 1 ∧
      [line].countP (fun l => !l.isBlank && !(Message.parse l.payload).isOk) = 1 ∧
      [line].countP (fun l => !l.isBlank && !(dispatch l.payload .quiet idle).2.peer.outbox.isEmpty) = 0 := by
    decide +kernel
  refine ⟨hisBlank, hchars, ?_, hlines.trans hone.1, hrejected.trans hone.2.1, hwritten.trans hone.2.2⟩
  calc
    replay .compact [blank, padded] = replay .compact [padded] := hblank [] [padded] blank hisBlank
    _ = replay .compact [line] := hpadded [] [] line padded [' '] ['\r'] (by decide) hchars

end LanguageServer.Replay
