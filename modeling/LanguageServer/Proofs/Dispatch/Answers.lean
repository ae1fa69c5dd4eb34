import LanguageServer.Dispatch
import LanguageServer.Proofs.Message.Ids
import LanguageServer.Proofs.Outbox

/-! The answers to a payload. What one payload adds to the outbox, for any server. There are two ways to an
    answer: a message that was read is processed, and a payload that is no message but looks like a request
    is refused under the id that is found in it. Both agree with the kind that the keys of the payload show:
    a request with a string or a number as its id is answered once under this id, whatever else is wrong
    with it, a notification is answered only if its handler fails, and nothing else is answered
    (`dispatch_answers`). -/

namespace LanguageServer

variable {σ ρ : Type} {raw : String} {v : Json} {s : Server σ} {p : Peer σ ρ}

/-- The answers that a value calls for, by the kind that its keys show. -/
def Answered (s : Server σ) (memory : σ) (v : Json) (answers : List Response) : Prop :=
  match classify v with
  | .request =>
    ∀ id, v.get? "id" = some id →
      (id.kind = .string ∨ id.kind = .number →
        ∃ r, answers = [r] ∧ (Content.toJson r).get? "id" = some id) ∧
      (¬ (id.kind = .string ∨ id.kind = .number) → answers = [])
  | .notification =>
    (∀ fault, Message.ofJson v = .error fault → answers = []) ∧
      ∀ m, Message.ofJson v = .ok m → ∃ n, m = .notification n ∧
        match ((s.notificationHandler n).start ⟨memory, [.incoming n.method]⟩).1 with
        | .ok () => answers = []
        | .error failure =>
          ∃ r, answers = [r] ∧ r.error? = some (.ofException failure) ∧
            (Content.toJson r).get? "id" = some .null
  | .response => answers = []
  | .unknown => answers = []

/-! ### What becomes of a text -/

theorem parse_of_read (h : Json.read raw = .ok v) : Message.parse raw = Message.ofJson v := by
  rw [Message.parse, h]

theorem read_of_parse {m : Message} (h : Message.parse raw = .ok m) :
    ∃ v, Json.read raw = .ok v ∧ Message.ofJson v = .ok m := by
  cases hr : Json.read raw with
  | error fault =>
    rw [Message.parse, hr] at h
    cases h
  | ok v => exact ⟨v, rfl, (parse_of_read hr).symm.trans h⟩

theorem exists_id_of_request (h : classify v = .request) : ∃ id, v.get? "id" = some id := by
  cases hid : v.get? "id" with
  | some id => exact ⟨id, rfl⟩
  | none =>
    rw [classify, hid] at h
    cases hm : v.get? "method" <;> simp [hm] at h

/-- The id of a refused payload is looked for in a value with a method and an id. -/
theorem recoverId?_of_read (h : Json.read raw = .ok v) :
    recoverId? raw =
      if classify v = .request then (v.get? "id").bind RequestId.ofRefused? else none := by
  rw [recoverId?, h]
  cases v with
  | obj members =>
    cases hm : Json.Members.get? "method" members with
    | none =>
      cases hi : Json.Members.get? "id" members <;> simp [Message.classify_obj, Json.Members.has, hm, hi]
    | some method =>
      cases hi : Json.Members.get? "id" members <;>
        simp [Message.classify_obj, Json.Members.has, Json.get?, hm, hi]
  | _ => rfl

theorem recoverId?_of_malformed {fault : Json.ReadFault} (h : Json.read raw = .error fault) :
    recoverId? raw = none := by
  rw [recoverId?, h]

theorem dispatch_of_ok {m : Message} (h : Message.parse raw = .ok m) :
    (dispatch raw s p).2 = m.process s p := by
  rw [dispatch, h]

theorem dispatch_of_error {fault : Fault} (h : Message.parse raw = .error fault) :
    (dispatch raw s p).2 = refuse raw (.ofFault fault) p := by
  rw [dispatch, h]

/-! ### What is added -/

theorem refuse_of_none {failure : Exception} (h : recoverId? raw = none) :
    (refuse raw failure p).peer.outbox = p.outbox := by
  rw [refuse, h]

theorem refuse_of_some {failure : Exception} {id : RequestId} (h : recoverId? raw = some id) :
    (refuse raw failure p).peer.outbox =
      p.outbox.pushResponse (.failure (some id) (.ofException failure)) := by
  rw [refuse, h]

theorem refuse_memory (failure : Exception) : (refuse raw failure p).peer.memory = p.memory := by
  unfold refuse
  split <;> rfl

theorem Request.process_memory (r : Request) :
    (r.process s p).peer.memory =
      ((s.requestHandler r).start ⟨p.memory, [.incoming r.method]⟩).2.memory := by
  unfold Request.process
  split <;> (rename_i h; rw [h])

theorem Notification.process_memory (n : Notification) :
    (n.process s p).peer.memory =
      ((s.notificationHandler n).start ⟨p.memory, [.incoming n.method]⟩).2.memory := by
  unfold Notification.process
  split <;> (rename_i h; rw [h])

/-- The answer to a request. -/
def Server.reply (s : Server σ) (memory : σ) (r : Request) : Response :=
  match ((s.requestHandler r).start ⟨memory, [.incoming r.method]⟩).1 with
  | .ok result => .success (some r.id) result
  | .error failure => .failure (some r.id) (.ofException failure)

theorem Server.id_reply (memory : σ) (r : Request) : (s.reply memory r).id = some r.id := by
  unfold reply
  split <;> rfl

/-- A request that is processed is answered under its id, whether its handler fails or not. -/
theorem Request.process_outbox (r : Request) :
    (r.process s p).peer.outbox = p.outbox.pushResponse (s.reply p.memory r) := by
  unfold Request.process Server.reply
  split <;> (rename_i h; rw [h])

theorem Notification.process_of_ok {n : Notification}
    (h : ((s.notificationHandler n).start ⟨p.memory, [.incoming n.method]⟩).1 = .ok ()) :
    (n.process s p).peer.outbox = p.outbox := by
  unfold Notification.process
  split
  · rfl
  · rename_i hn
    rw [hn] at h
    cases h

theorem Notification.process_of_error {n : Notification} {failure : Exception}
    (h : ((s.notificationHandler n).start ⟨p.memory, [.incoming n.method]⟩).1 = .error failure) :
    (n.process s p).peer.outbox = p.outbox.pushResponse (.failure none (.ofException failure)) := by
  unfold Notification.process
  split
  · rename_i hn
    rw [hn] at h
    cases h
  · rename_i hn
    rw [hn] at h
    cases h
    rfl

theorem RequestId.kind_toJson (id : RequestId) : id.toJson.kind = .string ∨ id.toJson.kind = .number := by
  cases id with
  | name text => exact Or.inl rfl
  | number n => exact Or.inr rfl
  | other n => exact Or.inr rfl

/-! ### A message is answered as its kind asks for -/

theorem answered_of_ok {m : Message} (hm : Message.ofJson v = .ok m) :
    ∃ answers, p.outbox.Answers (m.process s p).peer.outbox answers ∧ Answered s p.memory v answers := by
  obtain ⟨members, rfl, -, hkind⟩ := Message.ofJson_inv hm
  cases m with
  | request r =>
    obtain ⟨hc, hr⟩ := hkind
    refine ⟨[s.reply p.memory r], ?_, ?_⟩
    · rw [Message.process, r.process_outbox]
      exact Outbox.answers_pushResponse
    · rw [Answered, hc]
      intro id hget
      have hget : Json.Members.get? "id" members = some id := hget
      obtain rfl := Option.some.inj (hget.symm.trans (Request.id_of_read hr))
      refine ⟨fun _ => ⟨_, rfl, ?_⟩, fun hne => absurd r.id.kind_toJson hne⟩
      rw [Response.get?_id_toJson, Response.idJson, Server.id_reply]
  | notification n =>
    obtain ⟨hc, -⟩ := hkind
    cases hh : ((s.notificationHandler n).start ⟨p.memory, [.incoming n.method]⟩).1 with
    | ok =>
      refine ⟨[], ?_, ?_⟩
      · rw [Message.process, Notification.process_of_ok hh]
        exact Outbox.Answers.refl
      · rw [Answered, hc]
        refine ⟨fun _ _ => rfl, fun m hm' => ?_⟩
        cases hm.symm.trans hm'
        exact ⟨n, rfl, by rw [hh]⟩
    | error failure =>
      refine ⟨[.failure none (.ofException failure)], ?_, ?_⟩
      · rw [Message.process, Notification.process_of_error hh]
        exact Outbox.answers_pushResponse
      · rw [Answered, hc]
        refine ⟨fun fault hf => absurd (hm.symm.trans hf) nofun, fun m hm' => ?_⟩
        cases hm.symm.trans hm'
        refine ⟨n, rfl, ?_⟩
        rw [hh]
        exact ⟨_, rfl, rfl, Response.get?_id_toJson _⟩
  | response r =>
    obtain ⟨hc, -⟩ := hkind
    refine ⟨[], Outbox.answers_handle, ?_⟩
    rw [Answered, hc]

/-! ### A payload that is no message is refused as its kind asks for -/

theorem answered_of_error {fault : Fault} (failure : Exception) (hr : Json.read raw = .ok v)
    (he : Message.ofJson v = .error fault) :
    ∃ answers, p.outbox.Answers (refuse raw failure p).peer.outbox answers ∧
      Answered s p.memory v answers := by
  have hrecover := recoverId?_of_read hr
  by_cases hc : classify v = .request
  · rw [if_pos hc] at hrecover
    obtain ⟨id, hid⟩ := exists_id_of_request hc
    rw [hid, Option.bind_some] at hrecover
    -- The recovered id need not be one that a request may have: any number is echoed.
    by_cases hk : id.kind = .string ∨ id.kind = .number
    · obtain ⟨found, hfound⟩ := RequestId.exists_ofRefused? hk
      refine ⟨[.failure (some found) (.ofException failure)], ?_, ?_⟩
      · rw [refuse_of_some (hrecover.trans hfound)]
        exact Outbox.answers_pushResponse
      · rw [Answered, hc]
        intro id' hid'
        obtain rfl := Option.some.inj (hid.symm.trans hid')
        refine ⟨fun _ => ⟨_, rfl, ?_⟩, fun hne => absurd hk hne⟩
        rw [Response.get?_id_toJson]
        exact congrArg some (RequestId.toJson_of_ofRefused? hfound)
    · have hnone : RequestId.ofRefused? id = none :=
        Option.eq_none_iff_forall_ne_some.mpr fun _ h => hk (RequestId.kind_of_ofRefused? h)
      refine ⟨[], ?_, ?_⟩
      · rw [refuse_of_none (hrecover.trans hnone)]
        exact Outbox.Answers.refl
      · rw [Answered, hc]
        intro id' hid'
        obtain rfl := Option.some.inj (hid.symm.trans hid')
        exact ⟨fun hk' => absurd hk' hk, fun _ => rfl⟩
  · rw [if_neg hc] at hrecover
    refine ⟨[], ?_, ?_⟩
    · rw [refuse_of_none hrecover]
      exact Outbox.Answers.refl
    · cases hc' : classify v with
      | request => exact absurd hc' hc
      | notification =>
        rw [Answered, hc']
        exact ⟨fun _ _ => rfl, fun m hm => nomatch he.symm.trans hm⟩
      | response => rw [Answered, hc']
      | unknown => rw [Answered, hc']

/-- Of every text, every server and every outbox. A text that is no JSON is not answered, any other is
    answered as the kind that its keys show asks for, and nothing is added to the outbox but answers. -/
theorem dispatch_answers (raw : String) (s : Server σ) (p : Peer σ ρ) :
    ∃ answers, p.outbox.Answers (dispatch raw s p).2.peer.outbox answers ∧
      ((∀ v, Json.read raw ≠ .ok v) → answers = []) ∧
      ∀ v, Json.read raw = .ok v → Answered s p.memory v answers := by
  cases hr : Json.read raw with
  | error fault =>
    have hparse : Message.parse raw = .error (.malformed fault) := by
      rw [Message.parse, hr]
    refine ⟨[], ?_, fun _ => rfl, fun v hv => ?_⟩
    · rw [dispatch_of_error hparse, refuse_of_none (recoverId?_of_malformed hr)]
      exact Outbox.Answers.refl
    · cases hv
  | ok v =>
    have hparse := parse_of_read hr
    cases hm : Message.ofJson v with
    | ok m =>
      obtain ⟨answers, hout, hanswered⟩ := answered_of_ok (s := s) (p := p) hm
      rw [dispatch_of_ok (hparse.trans hm)]
      refine ⟨answers, hout, fun hne => absurd rfl (hne v), fun w hw => ?_⟩
      cases hw
      exact hanswered
    | error fault =>
      obtain ⟨answers, hout, hanswered⟩ :=
        answered_of_error (s := s) (p := p) (.ofFault fault) hr hm
      rw [dispatch_of_error (hparse.trans hm)]
      refine ⟨answers, hout, fun hne => absurd rfl (hne v), fun w hw => ?_⟩
      cases hw
      exact hanswered

end LanguageServer
