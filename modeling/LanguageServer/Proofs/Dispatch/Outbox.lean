import LanguageServer.Proofs.Dispatch.Answers

/-! What payloads do to a peer. A payload that is a response is handed to the outbox, and what its callback
    gives is the answer. Any other payload calls no callback, and at most one response is pushed for it:
    which one is told by the payload and the memory of the server (`Server.answer?`), whatever else is
    queued. So the answers to some payloads are the same whether they are sent one by one or wait until the
    last payload was taken (`dispatchAll_answered`, `receiveAll_answered`). -/

namespace LanguageServer

variable {σ ρ : Type} {raw : String} {s : Server σ} {p : Peer σ ρ}

theorem dispatch_of_response {r : Response} (h : Message.parse raw = .ok (.response r)) :
    (dispatch raw s p).2.peer.outbox = (p.outbox.handle r).2 ∧
      (dispatch raw s p).2.answer = (p.outbox.handle r).1 := by
  rw [dispatch_of_ok h]
  exact ⟨rfl, rfl⟩

/-- An outbox is left as it was, or one response was pushed to it. -/
def Outbox.AnsweredOnce (o o' : Outbox ρ) : Prop := o' = o ∨ ∃ r, o' = o.pushResponse r

theorem Request.process_once (r : Request) :
    (r.process s p).answer = none ∧ p.outbox.AnsweredOnce (r.process s p).peer.outbox := by
  refine ⟨?_, Or.inr ⟨_, r.process_outbox⟩⟩
  unfold Request.process
  split <;> rfl

theorem Notification.process_once (n : Notification) :
    (n.process s p).answer = none ∧ p.outbox.AnsweredOnce (n.process s p).peer.outbox := by
  unfold Notification.process
  split
  · exact ⟨rfl, Or.inl rfl⟩
  · exact ⟨rfl, Or.inr ⟨_, rfl⟩⟩

theorem refuse_once (failure : Exception) :
    (refuse raw failure p).answer = none ∧ p.outbox.AnsweredOnce (refuse raw failure p).peer.outbox := by
  unfold refuse
  split
  · exact ⟨rfl, Or.inr ⟨_, rfl⟩⟩
  · exact ⟨rfl, Or.inl rfl⟩

theorem dispatch_of_other (h : ∀ r, Message.parse raw ≠ .ok (.response r)) :
    (dispatch raw s p).2.answer = none ∧ p.outbox.AnsweredOnce (dispatch raw s p).2.peer.outbox := by
  cases hm : Message.parse raw with
  | error fault =>
    rw [dispatch_of_error hm]
    exact refuse_once _
  | ok m =>
    rw [dispatch_of_ok hm]
    cases m with
    | request r => exact r.process_once
    | notification n => exact n.process_once
    | response r => exact absurd hm (h r)

/-! ### The answer to a payload -/

/-- What a payload is answered with, if it is answered. -/
def Server.answer? (s : Server σ) (memory : σ) (raw : String) : Option Response :=
  match Message.parse raw with
  | .ok (.request r) => some (s.reply memory r)
  | .ok (.notification n) =>
    match ((s.notificationHandler n).start ⟨memory, [.incoming n.method]⟩).1 with
    | .ok () => none
    | .error failure => some (.failure none (.ofException failure))
  | .ok (.response _) => none
  | .error fault => (recoverId? raw).map fun id => .failure (some id) (.ofException (.ofFault fault))

/-- The memory of a server after a payload. -/
def Server.memoryAfter (s : Server σ) (memory : σ) (raw : String) : σ :=
  match Message.parse raw with
  | .ok (.request r) => ((s.requestHandler r).start ⟨memory, [.incoming r.method]⟩).2.memory
  | .ok (.notification n) => ((s.notificationHandler n).start ⟨memory, [.incoming n.method]⟩).2.memory
  | .ok (.response _) | .error _ => memory

/-- What is queued already has no bearing on the answer to a payload, nor on what the server remembers. -/
theorem dispatch_answer (raw : String) (s : Server σ) (p : Peer σ ρ) :
    p.outbox.Answers (dispatch raw s p).2.peer.outbox (s.answer? p.memory raw).toList ∧
      (dispatch raw s p).2.peer.memory = s.memoryAfter p.memory raw := by
  unfold Server.answer? Server.memoryAfter
  cases hm : Message.parse raw with
  | error fault =>
    rw [dispatch_of_error hm]
    refine ⟨?_, refuse_memory _⟩
    cases hid : recoverId? raw with
    | none =>
      rw [refuse_of_none hid]
      exact Outbox.Answers.refl
    | some id =>
      rw [refuse_of_some hid]
      exact Outbox.answers_pushResponse
  | ok m =>
    rw [dispatch_of_ok hm]
    cases m with
    | request r =>
      refine ⟨?_, r.process_memory⟩
      rw [Message.process, r.process_outbox]
      exact Outbox.answers_pushResponse
    | notification n =>
      refine ⟨?_, n.process_memory⟩
      rw [Message.process]
      cases hh : ((s.notificationHandler n).start ⟨p.memory, [.incoming n.method]⟩).1 with
      | ok =>
        rw [Notification.process_of_ok hh]
        simp only [hh]
        exact Outbox.Answers.refl
      | error failure =>
        rw [Notification.process_of_error hh]
        simp only [hh]
        exact Outbox.answers_pushResponse
    | response r => exact ⟨Outbox.answers_handle, rfl⟩

/-- An answer has the id of its payload, or none if there is none. -/
theorem Server.idJson_answer {memory : σ} {r : Response} (h : s.answer? memory raw = some r) :
    ∃ v, Json.read raw = .ok v ∧ r.idJson = (v.get? "id").getD .null := by
  unfold answer? at h
  split at h
  · rename_i q hparse
    cases h
    obtain ⟨v, hv, hm⟩ := read_of_parse hparse
    obtain ⟨members, rfl, -, -, hread⟩ := Message.ofJson_inv hm
    have hid : Json.Members.get? "id" members = some q.id.toJson := Request.id_of_read hread
    refine ⟨_, hv, ?_⟩
    rw [Response.idJson, Server.id_reply, Json.get?, hid]
    rfl
  · rename_i n hparse
    obtain ⟨v, hv, hm⟩ := read_of_parse hparse
    obtain ⟨members, rfl, -, -, hread⟩ := Message.ofJson_inv hm
    obtain ⟨-, -, hid⟩ := Notification.conforms_iff.mp (Content.read_eq_ok_iff.mp hread).1
    split at h
    · cases h
    · cases h
      refine ⟨_, hv, ?_⟩
      rw [Json.get?, hid]
      rfl
  · cases h
  · obtain ⟨id, hid, rfl⟩ := Option.map_eq_some_iff.mp h
    cases hr : Json.read raw with
    | error fault =>
      rw [recoverId?_of_malformed hr] at hid
      cases hid
    | ok v =>
      rw [recoverId?_of_read hr] at hid
      split at hid
      · obtain ⟨w, hw, hrefused⟩ := Option.bind_eq_some_iff.mp hid
        refine ⟨v, rfl, ?_⟩
        rw [hw]
        exact RequestId.toJson_of_ofRefused? hrefused
      · cases hid

/-- Of every text at most one answer is made, and nothing else is sent. -/
theorem dispatch_once (raw : String) (s : Server σ) (p : Peer σ ρ) :
    ∃ answers, p.outbox.Answers (dispatch raw s p).2.peer.outbox answers ∧ answers.length ≤ 1 := by
  refine ⟨_, (dispatch_answer raw s p).1, ?_⟩
  cases s.answer? p.memory raw with
  | none => exact Nat.zero_le 1
  | some r => exact Nat.le_refl 1

/-! ### Receiving, and sending what is queued -/

/-- Delivers a text to a peer, and takes out what the peer has to send then. -/
def Peer.receive {σ ρ : Type} (p : Peer σ ρ) (s : Server σ) (raw : String) : List Message × Peer σ ρ :=
  let q := (dispatch raw s p).2.peer
  (q.outbox.flush.1, { q with outbox := q.outbox.flush.2 })

/-- What is queued are the answers, if nothing was queued before. -/
theorem Outbox.Answers.queued {o o' : Outbox ρ} {answers : List Response} (h : o.Answers o' answers)
    (he : o.isEmpty = true) : o'.queued = answers.map .response := by
  have hqueues : o.responses = [] ∧ o.notifications = [] ∧ o.requests = [] := by
    simpa [Outbox.isEmpty, and_assoc] using he
  obtain ⟨hresponses, hnotifications, hrequests⟩ := hqueues
  simp [Outbox.queued, h.responses, h.notifications, h.requests, hresponses, hnotifications, hrequests]

/-- A peer with nothing to send sends the answers to the text, and then has nothing to send. -/
theorem receive_of_answers {answers : List Response} (he : p.outbox.isEmpty = true)
    (h : p.outbox.Answers (dispatch raw s p).2.peer.outbox answers) :
    (p.receive s raw).1 = answers.map .response ∧ (p.receive s raw).2.outbox.isEmpty = true ∧
      (p.receive s raw).2.memory = (dispatch raw s p).2.peer.memory := by
  rw [Peer.receive, Outbox.flush_eq]
  exact ⟨h.queued he, rfl, rfl⟩

/-! ### Payloads one after the other -/

/-- Delivers texts to a peer, which sends nothing meanwhile. -/
def Peer.dispatchAll (p : Peer σ ρ) (s : Server σ) (raws : List String) : Peer σ ρ :=
  raws.foldl (fun p raw => (dispatch raw s p).2.peer) p

/-- Delivers texts to a peer, and takes out after each of them what the peer has to send. -/
def Peer.receiveAll (p : Peer σ ρ) (s : Server σ) : List String → List Message × Peer σ ρ
  | [] => ([], p)
  | raw :: rest =>
    let (messages, p) := p.receive s raw
    let (more, p) := p.receiveAll s rest
    (messages ++ more, p)

theorem receiveAll_append (raws raws' : List String) (p : Peer σ ρ) :
    (p.receiveAll s (raws ++ raws')).1 =
        (p.receiveAll s raws).1 ++ ((p.receiveAll s raws).2.receiveAll s raws').1 ∧
      (p.receiveAll s (raws ++ raws')).2 = ((p.receiveAll s raws).2.receiveAll s raws').2 := by
  induction raws generalizing p with
  | nil => exact ⟨rfl, rfl⟩
  | cons raw rest ih =>
    obtain ⟨hmessages, hpeer⟩ := ih (p.receive s raw).2
    refine ⟨?_, hpeer⟩
    show (p.receive s raw).1 ++ ((p.receive s raw).2.receiveAll s (rest ++ raws')).1 = _
    rw [hmessages, ← List.append_assoc]
    rfl

/-- The payloads that are answered, each with its answer. -/
def Server.answered (s : Server σ) : σ → List String → List (String × Response)
  | _, [] => []
  | memory, raw :: rest =>
    ((s.answer? memory raw).map (raw, ·)).toList ++ s.answered (s.memoryAfter memory raw) rest

theorem Server.answered_cons (memory : σ) (rest : List String) :
    (s.answered memory (raw :: rest)).map (·.2) =
      (s.answer? memory raw).toList ++ (s.answered (s.memoryAfter memory raw) rest).map (·.2) := by
  rw [answered, List.map_append]
  cases s.answer? memory raw <;> rfl

theorem Server.answered_append (memory : σ) (front back : List String) :
    s.answered memory (front ++ back) =
      s.answered memory front ++ s.answered (front.foldl s.memoryAfter memory) back := by
  induction front generalizing memory with
  | nil => rfl
  | cons raw front ih => rw [List.cons_append, answered, ih, answered, List.append_assoc, List.foldl_cons]

theorem Server.answered_sublist (memory : σ) (raws : List String) :
    ((s.answered memory raws).map (·.1)).Sublist raws := by
  induction raws generalizing memory with
  | nil => exact List.Sublist.refl _
  | cons raw rest ih =>
    rw [answered, List.map_append]
    cases s.answer? memory raw with
    | none => exact (ih _).cons raw
    | some r => exact (ih _).cons_cons raw

/-- What holds of every answer to a payload holds of all answers to payloads. -/
theorem Server.forall_answered {P : String → Response → Prop}
    (h : ∀ memory raw r, s.answer? memory raw = some r → P raw r) (memory : σ) (raws : List String) :
    ∀ x ∈ s.answered memory raws, P x.1 x.2 := by
  induction raws generalizing memory with
  | nil => exact nofun
  | cons raw rest ih =>
    rw [answered]
    refine List.forall_mem_append.mpr ⟨fun x hx => ?_, ih _⟩
    obtain ⟨r, hr, rfl⟩ := Option.map_eq_some_iff.mp (Option.mem_toList.mp hx)
    exact h memory raw r hr

theorem dispatchAll_answered (raws : List String) (p : Peer σ ρ) :
    p.outbox.Answers (p.dispatchAll s raws).outbox ((s.answered p.memory raws).map (·.2)) ∧
      (p.dispatchAll s raws).memory = raws.foldl s.memoryAfter p.memory := by
  induction raws generalizing p with
  | nil => exact ⟨Outbox.Answers.refl, rfl⟩
  | cons raw rest ih =>
    obtain ⟨hanswers, hmemory⟩ := dispatch_answer raw s p
    obtain ⟨hrest, hafter⟩ := ih (dispatch raw s p).2.peer
    rw [hmemory] at hrest hafter
    rw [Server.answered_cons]
    exact ⟨hanswers.trans hrest, hafter⟩

/-- A peer with nothing to send sends the answers, and what it remembers is what it would if it sent them at
    the end. -/
theorem receiveAll_answered (raws : List String) (p : Peer σ ρ) (he : p.outbox.isEmpty = true) :
    (p.receiveAll s raws).1 = (s.answered p.memory raws).map (.response ·.2) ∧
      (p.receiveAll s raws).2.outbox.isEmpty = true ∧
      (p.receiveAll s raws).2.memory = raws.foldl s.memoryAfter p.memory := by
  induction raws generalizing p with
  | nil => exact ⟨rfl, he, rfl⟩
  | cons raw rest ih =>
    obtain ⟨hanswers, hmemory⟩ := dispatch_answer raw s p
    obtain ⟨hsent, hempty, hkept⟩ := receive_of_answers he hanswers
    obtain ⟨hmore, hempty, hafter⟩ := ih (p.receive s raw).2 hempty
    rw [hkept, hmemory] at hmore hafter
    refine ⟨?_, hempty, hafter⟩
    have hmap : ∀ answered : List (String × Response),
        answered.map (fun x => Message.response x.2) = (answered.map (·.2)).map .response := by simp
    show (p.receive s raw).1 ++ ((p.receive s raw).2.receiveAll s rest).1 = _
    rw [hsent, hmore, hmap, hmap, Server.answered_cons, List.map_append]

end LanguageServer
