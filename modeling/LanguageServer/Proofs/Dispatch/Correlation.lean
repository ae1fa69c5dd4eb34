import LanguageServer.Proofs.Dispatch.Outbox
import LanguageServer.Proofs.Outbox.Correlation
import LanguageServer.Server.Quiet

/-! Requests to the client and its responses, over whole runs. A run of a peer mixes what its server does
    with the outbox and payloads that are dispatched. The correlation of requests and responses
    (`Outbox.Correlated`) is kept by every move, for a payload either is a response, which is then handled
    like any other, or touches no callback. So in every run the ids count up, each callback waits under an
    id of its own until a response with this id comes, and it is called for that response and never again
    (`converse_matched`). -/

namespace LanguageServer

variable {σ ρ : Type} {s : Server σ}

/-- What happens at a peer: something is done with its outbox, or a payload comes in. -/
inductive Move (ρ : Type) where
  | operate (op : Outbox.Operation ρ)
  | dispatch (raw : String)

/-- The move pushes a request. -/
def Move.isRequest : Move ρ → Bool
  | operate (.pushRequest _ _ _) => true
  | _ => false

/-- The response in a payload, with what a callback gave for it. -/
def answerTo (raw : String) (answer : Option ρ) : List (Response × ρ) :=
  match Message.parse raw with
  | .ok (.response r) => (answer.map (r, ·)).toList
  | _ => []

/-- A peer, with the requests that were pushed and the responses that were taken since its outbox was empty:
    the ids that were returned and the callbacks, and the responses and what the callbacks gave. -/
structure Conversation (σ ρ : Type) where
  peer : Peer σ ρ
  asked : List (RequestId × Callback ρ) := []
  taken : List (Response × ρ) := []

namespace Conversation

/-- A conversation after a move. -/
def step (s : Server σ) (c : Conversation σ ρ) : Move ρ → Conversation σ ρ
  | .operate op =>
    { peer := { c.peer with outbox := op.apply c.peer.outbox }
      asked := c.asked ++ op.asks c.peer.outbox
      taken := c.taken ++ op.takes c.peer.outbox }
  | .dispatch raw =>
    let effect := (dispatch raw s c.peer).2
    { peer := effect.peer
      asked := c.asked
      taken := c.taken ++ answerTo raw effect.answer }

/-- A run of moves from an empty outbox on. -/
def converse (s : Server σ) (memory : σ) (moves : List (Move ρ)) : Conversation σ ρ :=
  moves.foldl (step s) { peer := ⟨memory, .empty⟩ }

theorem converse_append_singleton (memory : σ) (moves : List (Move ρ)) (move : Move ρ) :
    converse s memory (moves ++ [move]) = (converse s memory moves).step s move := by
  rw [converse, List.foldl_append]
  rfl

/-! ### What a move keeps -/

theorem length_asked_step (c : Conversation σ ρ) (move : Move ρ) :
    (c.step s move).asked.length = c.asked.length + [move].countP Move.isRequest := by
  cases move with
  | dispatch raw => rfl
  | operate op => cases op <;> simp [step, Move.isRequest]

theorem length_asked (memory : σ) (moves : List (Move ρ)) :
    (converse s memory moves).asked.length = moves.countP Move.isRequest := by
  induction moves using List.reverseRecOn with
  | nil => rfl
  | append_singleton moves move ih =>
    rw [converse_append_singleton, length_asked_step, ih, List.countP_append]

/-- A payload that is no response leaves the callbacks, and the count of requests, as they are. -/
theorem pending_of_answeredOnce {o o' : Outbox ρ} (h : o.AnsweredOnce o') :
    o'.pending = o.pending ∧ o'.next = o.next := by
  rcases h with rfl | ⟨r, rfl⟩
  · exact ⟨rfl, rfl⟩
  · exact ⟨rfl, rfl⟩

theorem correlated_step {c : Conversation σ ρ} (h : c.peer.outbox.Correlated c.asked c.taken)
    (move : Move ρ) (hroom : (c.step s move).asked.length ≤ UInt64.size) :
    (c.step s move).peer.outbox.Correlated (c.step s move).asked (c.step s move).taken := by
  cases move with
  | operate op => exact h.apply op hroom
  | dispatch raw =>
    by_cases hresponse : ∃ r, Message.parse raw = .ok (.response r)
    · obtain ⟨r, hr⟩ := hresponse
      obtain ⟨hout, hanswer⟩ := dispatch_of_response (s := s) (p := c.peer) hr
      have hkept := Outbox.Correlated.handle h hroom r
      rw [← hout, ← hanswer] at hkept
      simpa only [step, answerTo, hr] using hkept
    · have hother : ∀ r, Message.parse raw ≠ .ok (.response r) := fun r hr => hresponse ⟨r, hr⟩
      obtain ⟨hanswer, hout⟩ := dispatch_of_other (s := s) (p := c.peer) hother
      obtain ⟨hpending, hnext⟩ := pending_of_answeredOnce hout
      have htaken : answerTo raw (dispatch raw s c.peer).2.answer = [] := by
        rw [hanswer, answerTo]
        split <;> rfl
      rw [step, htaken, List.append_nil]
      exact ⟨hnext.trans h.next, h.ids, hpending.trans h.pending, h.own, h.once⟩

theorem correlated_converse (memory : σ) (moves : List (Move ρ))
    (hroom : moves.countP Move.isRequest ≤ UInt64.size) :
    let c := converse s memory moves
    c.peer.outbox.Correlated c.asked c.taken := by
  induction moves using List.reverseRecOn with
  | nil => exact Outbox.correlated_empty
  | append_singleton moves move ih =>
    have hlength := length_asked (s := s) memory (moves ++ [move])
    rw [List.countP_append] at hroom
    rw [converse_append_singleton] at hlength ⊢
    refine correlated_step (ih (by omega)) move ?_
    rw [hlength, List.countP_append]
    exact hroom

/-- Of every server and every run with fewer than `UInt64.size` requests, up to any point of it: requests
    and responses are matched. A payload that is a response is handled like any other response, and no other
    payload is given to a callback, whatever its id is. -/
theorem converse_matched (s : Server σ) (memory : σ) (moves : List (Move ρ))
    (hroom : moves.countP Move.isRequest < UInt64.size) :
    let c := converse s memory moves
    c.peer.outbox.Matched c.asked c.taken ∧ c.asked.length = moves.countP Move.isRequest ∧
      (∀ raw r, Message.parse raw = .ok (.response r) →
        (dispatch raw s c.peer).2.peer.outbox = (c.peer.outbox.handle r).2 ∧
          (dispatch raw s c.peer).2.answer = (c.peer.outbox.handle r).1) ∧
      ∀ raw, (∀ r, Message.parse raw ≠ .ok (.response r)) →
        (dispatch raw s c.peer).2.answer = none ∧
          (dispatch raw s c.peer).2.peer.outbox.pending = c.peer.outbox.pending ∧
          (dispatch raw s c.peer).2.peer.outbox.next = c.peer.outbox.next := by
  intro c
  have hlength : c.asked.length = moves.countP Move.isRequest := length_asked memory moves
  have hcorrelated := correlated_converse (s := s) memory moves (Nat.le_of_lt hroom)
  refine ⟨hcorrelated.matched (hlength ▸ hroom), hlength, fun raw r hr => dispatch_of_response hr, ?_⟩
  intro raw hraw
  obtain ⟨hanswer, hout⟩ := dispatch_of_other (s := s) (p := c.peer) hraw
  obtain ⟨hpending, hnext⟩ := pending_of_answeredOnce hout
  exact ⟨hanswer, hpending, hnext⟩

/-- A request whose id is 0 is answered under the string `0`, and the second answer finds no callback. -/
theorem converse_matched_twice :
    let answer := "\x7b\"jsonrpc\":\"2.0\",\"id\":\"0\",\"result\":null\x7d"
    let moves : List (Move Unit) :=
      [.operate (.pushRequest "workspace/workspaceFolders" none fun _ => ()), .dispatch answer,
        .dispatch answer]
    let c := converse .quiet () moves
    moves.countP Move.isRequest < UInt64.size ∧ c.taken.length = 1 ∧ c.peer.outbox.pending.length = 0 ∧
      c.peer.outbox.Matched c.asked c.taken := by
  intro answer moves c
  have hroom : moves.countP Move.isRequest < UInt64.size := by decide
  obtain ⟨hmatched, -⟩ := converse_matched .quiet () moves hroom
  have htaken : c.taken.length = 1 := by decide +kernel
  have hpending : c.peer.outbox.pending.length = 0 := by decide +kernel
  exact ⟨hroom, htaken, hpending, hmatched⟩

end Conversation

end LanguageServer
