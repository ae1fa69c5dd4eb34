import LanguageServer.Proofs.Dispatch.Outbox
import LanguageServer.Proofs.Json.Writer
import LanguageServer.Proofs.Message.Writing
import LanguageServer.Server.Quiet
import LanguageServer.Server.Recorder

/-! Two peers that answer each other. Two peers exchange texts. A step delivers one of the texts in flight,
    whichever it is, and puts what the receiver has to send in flight to the other side. A text from outside
    is answered at most once. An answer is never answered, for however it is read it has no method, and it
    leaves the memory of its receiver as it was; so texts from outside, counted twice, and answers in flight
    get less with every delivery, and no exchange goes on for ever (`Exchange.run_calm`). -/

namespace LanguageServer

/-- The two sides of an exchange. -/
inductive Side where
  | left
  | right
deriving DecidableEq

/-- How a text came to be in flight. -/
inductive Origin where
  /-- It was put there from outside. -/
  | injected
  /-- A peer sent it. -/
  | reply
deriving DecidableEq

/-- A text in flight to one side. -/
structure Parcel where
  side : Side
  origin : Origin
  text : String
deriving DecidableEq

namespace Parcel

/-- What a peer sends, on its way to a side. -/
def sent (side : Side) (messages : List Message) : List Parcel :=
  messages.map fun m => ⟨side, .reply, m.text⟩

/-- A text that a peer sent is the text of an answer. -/
def IsSound (x : Parcel) : Prop := x.origin = .reply → ∃ r : Response, x.text = (Message.response r).text

end Parcel

/-- Two peers and the texts in flight between them. -/
structure Exchange (σ τ ρ κ : Type) where
  left : Peer σ ρ
  right : Peer τ κ
  flight : List Parcel

namespace Exchange

variable {σ τ ρ κ : Type} {s : Server σ} {t : Server τ}

/-- Two peers with texts from outside in flight to them. -/
def start (p : Peer σ ρ) (q : Peer τ κ) (texts : List (Side × String)) : Exchange σ τ ρ κ :=
  ⟨p, q, texts.map fun x => ⟨x.1, .injected, x.2⟩⟩

/-- How often texts can be delivered at most: what is in flight, and the answers to what is from outside. -/
def weight (x : Exchange σ τ ρ κ) : Nat := x.flight.length + x.flight.countP (·.origin = .injected)

/-- One of the texts in flight is delivered. -/
inductive Step (s : Server σ) (t : Server τ) : Exchange σ τ ρ κ → Parcel → Exchange σ τ ρ κ → Prop where
  | left (p : Peer σ ρ) (q : Peer τ κ) (before after : List Parcel) (x : Parcel) (h : x.side = .left) :
    Step s t ⟨p, q, before ++ x :: after⟩ x
      ⟨(p.receive s x.text).2, q, before ++ after ++ Parcel.sent .right (p.receive s x.text).1⟩
  | right (p : Peer σ ρ) (q : Peer τ κ) (before after : List Parcel) (x : Parcel) (h : x.side = .right) :
    Step s t ⟨p, q, before ++ x :: after⟩ x
      ⟨p, (q.receive t x.text).2, before ++ after ++ Parcel.sent .left (q.receive t x.text).1⟩

/-- Deliveries one after the other, with what was delivered. -/
inductive Run (s : Server σ) (t : Server τ) : Exchange σ τ ρ κ → List Parcel → Exchange σ τ ρ κ → Prop where
  | nil (x : Exchange σ τ ρ κ) : Run s t x [] x
  | snoc {x y z : Exchange σ τ ρ κ} {delivered : List Parcel} {a : Parcel} (h : Run s t x delivered y)
    (step : Step s t y a z) : Run s t x (delivered ++ [a]) z

/-- What a delivery leads to: the text is in flight no more, and at most one answer to it is. An answer is
    not answered, and both memories are as they were. -/
def Delivery (x : Exchange σ τ ρ κ) (parcel : Parcel) (y : Exchange σ τ ρ κ) : Prop :=
  ∃ before after replies, x.flight = before ++ parcel :: after ∧ y.flight = before ++ after ++ replies ∧
    (∀ reply ∈ replies, reply.origin = .reply ∧ reply.IsSound) ∧ replies.length ≤ 1 ∧
    (parcel.origin = .reply →
      replies = [] ∧ y.left.memory = x.left.memory ∧ y.right.memory = x.right.memory)

end Exchange

/-! ### What is sent -/

namespace Parcel

variable {side : Side} {answers : List Response}

theorem of_mem_sent {x : Parcel} (h : x ∈ sent side (answers.map .response)) :
    x.origin = .reply ∧ x.IsSound := by
  rw [sent, List.map_map] at h
  obtain ⟨r, -, rfl⟩ := List.mem_map.mp h
  exact ⟨rfl, fun _ => ⟨r, rfl⟩⟩

end Parcel

/-! ### What one text leads to -/

section Peer

variable {σ ρ : Type} {raw : String} {s : Server σ} {p : Peer σ ρ} {answers : List Response} {v : Json}

theorem classify_of_no_method (hm : v.get? "method" = none) :
    classify v ≠ .request ∧ classify v ≠ .notification := by
  rw [classify, hm]
  cases (v.get? "id").isSome <;> simp

/-- A text that has no method, if it is read at all, is given to a callback or dropped. -/
theorem dispatch_of_no_method (h : ∀ v, Json.read raw = .ok v → v.get? "method" = none) :
    p.outbox.Answers (dispatch raw s p).2.peer.outbox [] ∧ (dispatch raw s p).2.peer.memory = p.memory := by
  cases hm : Message.parse raw with
  | error fault =>
    -- No id is looked for where there is no method, so nobody is told that the text was refused.
    have hrecover : recoverId? raw = none := by
      cases hr : Json.read raw with
      | error fault => exact recoverId?_of_malformed hr
      | ok v => rw [recoverId?_of_read hr, if_neg (classify_of_no_method (h v hr)).1]
    rw [dispatch_of_error hm, refuse_of_none hrecover]
    exact ⟨Outbox.Answers.refl, refuse_memory _⟩
  | ok m =>
    rw [dispatch_of_ok hm]
    obtain ⟨v, hr, hv⟩ := read_of_parse hm
    obtain ⟨members, -, -, hkind⟩ := Message.ofJson_inv hv
    obtain ⟨hrequest, hnotification⟩ := classify_of_no_method (h v hr)
    cases m with
    | request r => exact absurd hkind.1 hrequest
    | notification n => exact absurd hkind.1 hnotification
    | response r => exact ⟨Outbox.answers_handle, rfl⟩

/-- However the text of an answer is read, there is no method in it: it is written without one, and no key
    is read that was not written. -/
theorem no_method_of_read (r : Response) (hr : Json.read (Message.response r).text = .ok v) :
    v.get? "method" = none := by
  obtain ⟨members, hwrite, hm⟩ :
      ∃ members, (Message.response r).write = .obj members ∧ "method" ∉ Json.Members.keys members := by
    refine ⟨_, Message.write_response, ?_⟩
    rcases r with ⟨id, - | (v | e)⟩ <;> simp [Json.Members.keys]
  rw [Message.text, hwrite, Json.read_compact_eq (v := .obj members) Json.Kind.noConfusion] at hr
  cases hreread : Json.reread 0 (.obj members) with
  | none =>
    rw [hreread] at hr
    cases hr
  | some w =>
    rw [hreread] at hr
    cases hr
    obtain ⟨out, rfl, hkeys⟩ := Json.keys_reread hreread
    exact Json.Members.get?_eq_none_iff.mpr fun hout => hm (hkeys _ hout)

theorem dispatch_reply (r : Response) :
    p.outbox.Answers (dispatch (Message.response r).text s p).2.peer.outbox [] ∧
      (dispatch (Message.response r).text s p).2.peer.memory = p.memory :=
  dispatch_of_no_method fun _ hr => no_method_of_read r hr

/-- What a peer with nothing to send makes of a text in flight, and what goes to the other side then. -/
theorem receive_parcel {parcel : Parcel} (he : p.outbox.isEmpty = true) (hsound : parcel.IsSound)
    (side : Side) :
    let replies := Parcel.sent side (p.receive s parcel.text).1
    (p.receive s parcel.text).2.outbox.isEmpty = true ∧
      (∀ reply ∈ replies, reply.origin = .reply ∧ reply.IsSound) ∧ replies.length ≤ 1 ∧
      (parcel.origin = .reply → replies = [] ∧ (p.receive s parcel.text).2.memory = p.memory) := by
  intro replies
  cases horigin : parcel.origin with
  | injected =>
    obtain ⟨answers, hanswers, hlength⟩ := dispatch_once parcel.text s p
    obtain ⟨hsent, hempty, -⟩ := receive_of_answers he hanswers
    have hreplies : replies = Parcel.sent side (answers.map .response) := congrArg _ hsent
    rw [hreplies]
    refine ⟨hempty, fun _ => Parcel.of_mem_sent, ?_, nofun⟩
    rwa [Parcel.sent, List.length_map, List.length_map]
  | reply =>
    obtain ⟨r, htext⟩ := hsound horigin
    obtain ⟨hanswers, hmemory⟩ := dispatch_reply (s := s) (p := p) r
    rw [← htext] at hanswers hmemory
    obtain ⟨hsent, hempty, hkept⟩ := receive_of_answers he hanswers
    have hreplies : replies = [] := congrArg (Parcel.sent side) hsent
    rw [hreplies]
    exact ⟨hempty, nofun, Nat.zero_le 1, fun _ => ⟨rfl, hkept.trans hmemory⟩⟩

end Peer

/-! ### One delivery, and all deliveries -/

namespace Exchange

variable {σ τ ρ κ : Type} {s : Server σ} {t : Server τ} {p : Peer σ ρ} {q : Peer τ κ}
  {x y : Exchange σ τ ρ κ} {parcel : Parcel} {delivered : List Parcel}

/-- No peer has anything to send, and what peers sent are answers. -/
structure Settled (x : Exchange σ τ ρ κ) : Prop where
  left : x.left.outbox.isEmpty = true
  right : x.right.outbox.isEmpty = true
  flight : ∀ parcel ∈ x.flight, parcel.IsSound

theorem settled_start (hp : p.outbox.isEmpty = true) (hq : q.outbox.isEmpty = true)
    (texts : List (Side × String)) : (start p q texts).Settled := by
  refine ⟨hp, hq, fun parcel hparcel => ?_⟩
  obtain ⟨text, -, rfl⟩ := List.mem_map.mp hparcel
  exact nofun

theorem weight_start (texts : List (Side × String)) : (start p q texts).weight = 2 * texts.length := by
  have hall : (start p q texts).flight.countP (·.origin = .injected) = texts.length := by
    rw [start, List.countP_map]
    exact List.countP_eq_length.mpr fun _ _ => rfl
  rw [weight, hall, start, List.length_map, Nat.two_mul]

/-- Either side receives a text as a peer does, and the other side stays as it is. -/
theorem Settled.step (h : x.Settled) (hstep : Step s t x parcel y) : y.Settled ∧ Delivery x parcel y := by
  cases hstep with
  | left p q before after x hside =>
    obtain ⟨hbefore, hflight⟩ := List.forall_mem_append.mp h.flight
    obtain ⟨hsound, hafter⟩ := List.forall_mem_cons.mp hflight
    have hkept := List.forall_mem_append.mpr ⟨hbefore, hafter⟩
    obtain ⟨hempty, hreplies, hlength, hreply⟩ := receive_parcel (s := s) h.left hsound .right
    refine ⟨⟨hempty, h.right, List.forall_mem_append.mpr ⟨hkept, fun a ha => (hreplies a ha).2⟩⟩, ?_⟩
    refine ⟨before, after, _, rfl, rfl, hreplies, hlength, fun horigin => ?_⟩
    exact ⟨(hreply horigin).1, (hreply horigin).2, rfl⟩
  | right p q before after x hside =>
    obtain ⟨hbefore, hflight⟩ := List.forall_mem_append.mp h.flight
    obtain ⟨hsound, hafter⟩ := List.forall_mem_cons.mp hflight
    have hkept := List.forall_mem_append.mpr ⟨hbefore, hafter⟩
    obtain ⟨hempty, hreplies, hlength, hreply⟩ := receive_parcel (s := t) h.right hsound .left
    refine ⟨⟨h.left, hempty, List.forall_mem_append.mpr ⟨hkept, fun a ha => (hreplies a ha).2⟩⟩, ?_⟩
    refine ⟨before, after, _, rfl, rfl, hreplies, hlength, fun horigin => ?_⟩
    exact ⟨(hreply horigin).1, rfl, (hreply horigin).2⟩

/-- A text from outside counts more than the answer to it, and an answer is not answered. -/
theorem Delivery.weight_lt (h : Delivery x parcel y) : y.weight < x.weight := by
  obtain ⟨before, after, replies, hx, hy, hreplies, hlength, hreply⟩ := h
  have hnone : replies.countP (·.origin = .injected) = 0 :=
    List.countP_eq_zero.mpr fun a ha => by simp [(hreplies a ha).1]
  simp only [weight, hx, hy, List.length_append, List.countP_append, List.length_cons, hnone]
  cases horigin : parcel.origin with
  | injected =>
    rw [List.countP_cons_of_pos (by simp [horigin])]
    omega
  | reply =>
    obtain ⟨rfl, -⟩ := hreply horigin
    rw [List.countP_cons_of_neg (by simp [horigin]), List.length_nil]
    omega

theorem Settled.run (h : x.Settled) (hrun : Run s t x delivered y) :
    y.Settled ∧ delivered.length + y.weight ≤ x.weight := by
  induction hrun with
  | nil => exact ⟨h, Nat.le_of_eq (Nat.zero_add _)⟩
  | snoc _ hstep ih =>
    -- What was delivered so far is paid for by what is in flight less than in the beginning.
    obtain ⟨hy, hle⟩ := ih
    obtain ⟨hz, hdelivery⟩ := hy.step hstep
    have hlt := hdelivery.weight_lt
    rw [List.length_append, List.length_singleton]
    exact ⟨hz, by omega⟩

/-- Of any two servers whose peers have nothing to send yet, of all texts in flight to them and of every
    order in which these and the answers to them are delivered. A text is answered at most once and an
    answer never, whether it can be read or not; an answer leaves both memories as they were; and what is in
    flight gets less with every delivery, so that there are at most two for each text from outside. -/
theorem run_calm (hp : p.outbox.isEmpty = true) (hq : q.outbox.isEmpty = true)
    (texts : List (Side × String)) (hrun : Run s t (start p q texts) delivered x) :
    delivered.length ≤ 2 * texts.length ∧ delivered.length + x.weight ≤ 2 * texts.length ∧
      ∀ parcel y, Step s t x parcel y → Delivery x parcel y ∧ y.weight < x.weight := by
  obtain ⟨hx, hle⟩ := (settled_start hp hq texts).run hrun
  rw [weight_start] at hle
  refine ⟨Nat.le_of_add_right_le hle, hle, fun parcel y hstep => ?_⟩
  have hdelivery := (hx.step hstep).2
  exact ⟨hdelivery, hdelivery.weight_lt⟩

/-- A request without a version has a number as its id that no request may have. The answer to it shows the
    number, so the other side cannot read the answer, and drops it. -/
theorem run_calm_refused :
    let raw := "\x7b\"id\":0.5,\"method\":\"shutdown\"\x7d"
    let reply := "\x7b\"jsonrpc\":\"2.0\",\"id\":0.5,\"error\":\x7b\"code\":-32700,\"message\":" ++
      "\"parse error: 'unsupported JSON-RPC version '<missing>''\"\x7d\x7d"
    let p : Peer Unit Empty := ⟨(), .empty⟩
    let q : Peer Record Empty := ⟨.empty, .empty⟩
    ∃ x : Exchange Unit Record Empty Empty,
      Run .quiet .recorder (start p q [(.right, raw)]) [⟨.right, .injected, raw⟩, ⟨.left, .reply, reply⟩] x ∧
        x.flight = [] ∧ 2 + x.weight ≤ 2 := by
  intro raw reply p q
  have hreply : Parcel.sent .left (q.receive .recorder raw).1 = [⟨.left, .reply, reply⟩] := by decide +kernel
  have hnone : Parcel.sent .right (p.receive .quiet reply).1 = [] := by decide +kernel
  have hfirst := Step.right (s := .quiet) (t := .recorder) p q [] [] ⟨.right, .injected, raw⟩ rfl
  have hsecond := Step.left (s := .quiet) (t := .recorder) p (q.receive .recorder raw).2 [] []
    ⟨.left, .reply, reply⟩ rfl
  rw [hreply] at hfirst
  rw [hnone] at hsecond
  have hrun := ((Run.nil _).snoc hfirst).snoc hsecond
  exact ⟨_, hrun, rfl, (run_calm rfl rfl [(.right, raw)] hrun).2.1⟩

end Exchange

end LanguageServer
