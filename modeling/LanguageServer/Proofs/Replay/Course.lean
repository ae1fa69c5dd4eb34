import LanguageServer.Proofs.Dispatch.Outbox
import LanguageServer.Replay

/-! The course of a replay. What a replay does, for any server and any lines: it delivers the payloads of
    the lines to the peer one after the other, up to the first line that is not UTF-8, and writes what the
    peer sends after each of them (`course_run`). So of a replay only the payloads matter, and what the peer
    makes of them. -/

namespace LanguageServer.Replay

variable {σ ρ : Type}

/-- A payload is no message. -/
def isRejected (payload : String) : Bool := !(Message.parse payload).isOk

/-- The bytes of messages, each with a line break behind it. -/
def Format.bytes (f : Format) (messages : List Message) : ByteArray :=
  (String.join (messages.map fun m => f.text m ++ "\n")).toUTF8

/-- The payloads of lines, up to the first that is not UTF-8. -/
def payloads : List Line → List String
  | [] | none :: _ => []
  | some text :: rest => (payload? text).toList ++ payloads rest

/-- Why a replay of lines stops, if there is room for everything. -/
def failure? (ls : List Line) : Option Failure := if none ∈ ls then some .badLine else none

namespace Summary

instance : Add Summary :=
  ⟨fun a b => ⟨a.lines + b.lines, a.rejected + b.rejected, a.written + b.written⟩⟩

/-- What payloads add up to, and the messages that are written for them. -/
def ofPayloads (raws : List String) (messages : List Message) : Summary where
  lines := raws.length
  rejected := raws.countP isRejected
  written := messages.length

end Summary

/-- A replay goes on from one state to another by some payloads: they were delivered to the peer, and what
    the peer sent was written. -/
structure Course (s : Server σ) (f : Format) (st st' : State σ ρ) (raws : List String) : Prop where
  peer : st'.peer = (st.peer.receiveAll s raws).2
  sink : st'.sink = { written := st.sink.written ++ f.bytes (st.peer.receiveAll s raws).1 }
  summary : st'.summary = st.summary + .ofPayloads raws (st.peer.receiveAll s raws).1

/-! ### Writing -/

theorem Format.bytes_nil (f : Format) : f.bytes [] = .empty := rfl

theorem Format.bytes_append (f : Format) (ms ns : List Message) :
    f.bytes (ms ++ ns) = f.bytes ms ++ f.bytes ns := by
  simp only [bytes, List.map_append, String.join_append, String.toUTF8_eq_toByteArray,
    String.toByteArray_append]

theorem Format.bytes_cons (f : Format) (m : Message) (ms : List Message) :
    f.bytes (m :: ms) = (f.text m).toUTF8 ++ "\n".toUTF8 ++ f.bytes ms := by
  simp only [bytes, List.map_cons, String.join_cons, String.toUTF8_eq_toByteArray,
    String.toByteArray_append]

theorem writeMessages_eq (f : Format) (ms : List Message) (written : ByteArray) :
    writeMessages f ms { written } = (none, { written := written ++ f.bytes ms }) := by
  induction ms generalizing written with
  | nil => rw [writeMessages, Format.bytes_nil, ByteArray.append_empty]
  | cons m ms ih =>
    have hrest : writeMessages f (m :: ms) { written } =
        writeMessages f ms { written := written ++ (f.text m).toUTF8 ++ "\n".toUTF8 } := rfl
    rw [hrest, ih, Format.bytes_cons, ByteArray.append_assoc, ByteArray.append_assoc,
      ByteArray.append_assoc]

/-! ### Adding up -/

namespace Summary

theorem add_mk (s : Summary) (a b c : Nat) :
    s + ⟨a, b, c⟩ = ⟨s.lines + a, s.rejected + b, s.written + c⟩ := rfl

theorem empty_add (a : Summary) : {} + a = a := by
  obtain ⟨lines, rejected, written⟩ := a
  simp only [add_mk, Nat.zero_add]

theorem add_assoc (a b c : Summary) : a + b + c = a + (b + c) := by
  obtain ⟨_, _, _⟩ := b
  obtain ⟨_, _, _⟩ := c
  simp only [add_mk, Nat.add_assoc]

theorem ofPayloads_append (raws raws' : List String) (ms ms' : List Message) :
    ofPayloads (raws ++ raws') (ms ++ ms') = ofPayloads raws ms + ofPayloads raws' ms' := by
  simp only [ofPayloads, List.length_append, List.countP_append, add_mk]

end Summary

/-! ### Payloads, lines and replays -/

section

variable {s : Server σ} {f : Format} {st st' st'' : State σ ρ} {raws raws' : List String}

theorem Course.refl (hroom : st.sink.room = none) : Course s f st st [] := by
  refine ⟨rfl, ?_, rfl⟩
  rw [Peer.receiveAll, Format.bytes_nil, ByteArray.append_empty, ← hroom]

theorem Course.trans (h : Course s f st st' raws) (h' : Course s f st' st'' raws') :
    Course s f st st'' (raws ++ raws') := by
  obtain ⟨hmessages, hpeer⟩ := receiveAll_append (s := s) raws raws' st.peer
  refine ⟨?_, ?_, ?_⟩
  · rw [h'.peer, h.peer, hpeer]
  · rw [h'.sink, h.sink, h.peer, hmessages, Format.bytes_append, ByteArray.append_assoc]
  · rw [h'.summary, h.summary, h.peer, hmessages, Summary.ofPayloads_append, Summary.add_assoc]

theorem Course.room (h : Course s f st st' raws) : st'.sink.room = none := by
  rw [h.sink]

theorem course_takePayload (hroom : st.sink.room = none) (raw : String) :
    (takePayload s f raw st).1 = none ∧ Course s f st (takePayload s f raw st).2 [raw] := by
  obtain ⟨peer, summary, sink, events⟩ := st
  obtain ⟨written, room⟩ := sink
  obtain rfl : room = none := hroom
  have hkind : isRejected raw = !(dispatch raw s peer).1.isOk := by
    rw [isRejected, dispatch]
    cases Message.parse raw <;> rfl
  have hsummary : ∀ ms, Summary.ofPayloads [raw] ms = ⟨1, (isRejected raw).toNat, ms.length⟩ := by
    intro ms
    cases h : isRejected raw <;> simp [Summary.ofPayloads, h]
  have hreceive : peer.receiveAll s [raw] = peer.receive s raw := Prod.ext (List.append_nil _) rfl
  unfold takePayload
  rw [Peer.receive] at hreceive
  generalize dispatch raw s peer = d at hkind hreceive ⊢
  obtain ⟨kind, effect⟩ := d
  dsimp only at hkind hreceive ⊢
  rw [writeMessages_eq]
  refine ⟨by cases kind <;> rfl, ?_, ?_, ?_⟩
  · rw [hreceive]
  · rw [hreceive]
  · -- Of the kind it matters only whether there is one, for the count of what is rejected.
    rw [hreceive, hsummary, hkind, Summary.add_mk]
    cases kind <;> rfl

/-- A line of blanks leads nowhere, and any other is a payload. -/
theorem course_takeLine (hroom : st.sink.room = none) (text : String) :
    (takeLine s f (some text) st).1 = none ∧
      Course s f st (takeLine s f (some text) st).2 (payload? text).toList := by
  rw [takeLine]
  cases payload? text with
  | none => exact ⟨rfl, .refl hroom⟩
  | some raw => exact course_takePayload hroom raw

theorem course_takeLines (hroom : st.sink.room = none) (ls : List Line) :
    (takeLines s f ls st).1 = failure? ls ∧ Course s f st (takeLines s f ls st).2 (payloads ls) := by
  induction ls generalizing st with
  | nil => exact ⟨rfl, .refl hroom⟩
  | cons line ls ih =>
    cases line with
    | none => exact ⟨by simp [takeLines, takeLine, failure?], .refl hroom⟩
    | some text =>
      obtain ⟨hnone, hcourse⟩ := course_takeLine (s := s) (f := f) hroom text
      rw [takeLines]
      generalize takeLine s f (some text) st = r at hnone hcourse ⊢
      obtain ⟨failure, st'⟩ := r
      obtain rfl : failure = none := hnone
      obtain ⟨hfailure, hrest⟩ := ih hcourse.room
      refine ⟨?_, hcourse.trans hrest⟩
      rw [hfailure]
      simp [failure?]

/-- Of every server, every line and every state with a sink that has room for everything. -/
theorem course_run (s : Server σ) (f : Format) (hroom : st.sink.room = none) (ls : List Line) :
    (run s f ls st).1 = failure? ls ∧ Course s f st (run s f ls st).2 (payloads ls) := by
  obtain ⟨hfailure, hcourse⟩ := course_takeLines (s := s) (f := f) hroom ls
  rw [run]
  generalize takeLines s f ls st = r at hfailure hcourse ⊢
  obtain ⟨failure, st'⟩ := r
  cases failure with
  | none => exact ⟨hfailure, hcourse.peer, hcourse.sink, hcourse.summary⟩
  | some failure => exact ⟨hfailure, hcourse⟩

end

end LanguageServer.Replay
