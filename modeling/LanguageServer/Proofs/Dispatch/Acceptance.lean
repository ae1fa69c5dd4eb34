import LanguageServer.Proofs.Dispatch.Outbox
import LanguageServer.Proofs.Message.Writing
import LanguageServer.Proofs.Server.Handler
import LanguageServer.Server.Quiet
import LanguageServer.Server.Recorder

/-! Every answer is accepted. The answers of a server are read as answers where they arrive. An answer has a
    result of one of the types that a result may have, or an error; results are interfaces of such a type,
    but for the result of a command, which is what the server makes of it (`Server.GivesResults`). Only the
    id may be one that no answer is accepted with: a request that is refused is answered under its id
    whatever number that is. So an answer is accepted unless its id is a number that is no whole number of
    64 bits (`dispatchAll_accepted`). -/

namespace LanguageServer

open Content

/-- The value is of one of the types that a result may have, and its members are in order. -/
structure Json.IsResult (v : Json) : Prop where
  kind : v.kind = .object ∨ v.kind = .array ∨ v.kind = .null
  ordered : v.Ordered

/-- An answer as it is made: the id of a request, or a number that is no such id, and a result or an
    error. -/
structure Response.IsSound (r : Response) : Prop where
  id : ∀ n, r.id = some (.other n) → n.signed? = none
  outcome : ∃ o, r.outcome = some o ∧ ∀ v, o = .result v → v.IsResult

/-- The answer is read as an answer under the same id, with the same result and with the same error but for
    its data, unless the id is a number that is no whole number of 64 bits; then it is refused. In any case
    it has the version of the protocol, and either a result or an error. -/
structure Response.IsAccepted (r : Response) : Prop where
  version : (Message.response r).toJson.get? "jsonrpc" = some (.str "2.0")
  outcome : ((Message.response r).toJson.get? "result").isSome =
    !((Message.response r).toJson.get? "error").isSome
  read : (∀ n, r.idJson = .num n → n.signed?.isSome = true) →
    ∃ r', Message.ofJson (Message.response r).toJson = .ok (.response r') ∧ r'.id = r.id ∧
      r'.result? = r.result? ∧ r'.error?.map (·.code) = r.error?.map (·.code) ∧
      r'.error?.map (·.message) = r.error?.map (·.message)
  refused : ∀ n, r.idJson = .num n → n.signed? = none →
    ∀ m, Message.ofJson (Message.response r).toJson ≠ .ok m

namespace Response

variable {r : Response}

theorem isSound_failure {id : Option RequestId} (e : ResponseError)
    (h : ∀ n, id = some (.other n) → n.signed? = none) : (failure id e).IsSound :=
  ⟨h, _, rfl, nofun⟩

theorem isSound_success {id : RequestId} {v : Json} (hid : id.IsAccepted) (hv : v.IsResult) :
    (success (some id) v).IsSound := by
  refine ⟨fun n h => absurd (Option.some.inj h) (hid n), _, rfl, fun w hw => ?_⟩
  cases hw
  exact hv

/-- The outcome of a sound answer arrives as it is, but for the data of an error. -/
theorem IsSound.arrived (h : r.IsSound) :
    r.arrived.result? = r.result? ∧ r.arrived.error?.map (·.code) = r.error?.map (·.code) ∧
      r.arrived.error?.map (·.message) = r.error?.map (·.message) := by
  obtain ⟨id, outcome⟩ := r
  obtain ⟨o, ho, hresult⟩ := h.outcome
  obtain rfl : outcome = some o := ho
  cases o with
  | result v =>
    have hv := Json.sorted_of_ordered v (hresult v rfl).ordered
    simp [Response.arrived, Outcome.arrived, result?, error?, hv]
  | error e => simp [Response.arrived, Outcome.arrived, ResponseError.arrived, result?, error?]

/-- The id of a sound answer is one that is accepted, unless it is written as another number. -/
theorem IsSound.isAccepted_id (h : r.IsSound) (hnum : ∀ n, r.idJson = .num n → n.signed?.isSome = true) :
    ∀ id, r.id = some id → id.IsAccepted := by
  rintro id hid n rfl
  have hnone := h.id n hid
  have hsome := hnum n (by rw [idJson, hid]; rfl)
  rw [hnone] at hsome
  cases hsome

theorem IsSound.isAccepted (h : r.IsSound) : r.IsAccepted := by
  obtain ⟨members, hmembers, hversion, hid, hmethod, hr, he⟩ := Message.members_response r
  refine ⟨?_, ?_, fun hnum => ?_, fun n hn hsigned m hm => ?_⟩
  · rw [hmembers]
    exact hversion
  · obtain ⟨o, ho, -⟩ := h.outcome
    rw [hmembers, Json.get?, Json.get?, hr, he, result?, error?, ho]
    cases o <;> rfl
  · obtain ⟨o, ho, hresult⟩ := h.outcome
    have hkind : ∀ v, r.result? = some v → v.kind = .object ∨ v.kind = .array ∨ v.kind = .null := by
      intro v hv
      have ho' := result?_eq_some_iff.mp hv
      exact (hresult v (Option.some.inj (ho.symm.trans ho'))).kind
    have hread := Message.read_response (h.isAccepted_id hnum) hkind
    exact ⟨r.arrived, Message.ofJson_response hread Message.get?_method_response, rfl, h.arrived⟩
  · -- What has an id and no method is read as an answer, and the id of an answer is a whole number.
    rw [hmembers, Message.ofJson_of_versioned hversion, Message.classify_obj, hid, hmethod] at hm
    obtain ⟨r', hread, -⟩ := Message.map_eq_ok_iff.mp hm
    obtain ⟨-, hshape⟩ := Response.conforms_iff.mp (read_eq_ok_iff.mp hread).1
    obtain ⟨v, hv, hnull⟩ := hshape.id
    obtain rfl : Json.num n = v := Option.some.inj (hn ▸ hid.symm.trans hv)
    rcases hnull with hnull | hwhole
    · cases hnull
    · have hsome := Json.ofJson?_isSome_iff.mpr hwhole
      rw [RequestId.ofJson?, hsigned] at hsome
      cases hsome

end Response

/-! ### Ids -/

theorem RequestId.isAccepted_of_ofJson? {v : Json} {id : RequestId} (h : ofJson? v = some id) :
    id.IsAccepted := by
  rintro n rfl
  cases v with
  | str text => cases h
  | num m =>
    obtain ⟨i, -, hi⟩ := Option.map_eq_some_iff.mp h
    cases hi
  | _ => cases h

theorem RequestId.signed?_of_ofRefused? {v : Json} {n : Json.Number} (h : ofRefused? v = some (.other n)) :
    n.signed? = none := by
  cases v with
  | num m =>
    rw [ofRefused?, Option.some.injEq] at h
    split at h
    · cases h
    · rename_i hm
      cases h
      exact hm
  | _ => cases h

theorem recoverId?_signed {raw : String} {n : Json.Number} (h : recoverId? raw = some (.other n)) :
    n.signed? = none := by
  unfold recoverId? at h
  split at h
  · split at h
    · obtain ⟨v, -, hv⟩ := Option.bind_eq_some_iff.mp h
      exact RequestId.signed?_of_ofRefused? hv
    · cases h
  · cases h

theorem Request.isAccepted_of_parse {raw : String} {r : Request} (h : Message.parse raw = .ok (.request r)) :
    r.id.IsAccepted := by
  obtain ⟨v, -, hv⟩ := read_of_parse h
  obtain ⟨members, rfl, -, -, hread⟩ := Message.ofJson_inv hv
  obtain ⟨-, ⟨w, -, hid⟩, -⟩ := Request.read_iff.mp hread
  exact RequestId.isAccepted_of_ofJson? hid

/-! ### Results -/

section Results

variable {σ ρ α β : Type} {j j' : Journal σ} {s : Server σ} {v : Json}

/-- The results of commands are of the types that a result may have. -/
def Server.GivesResults (s : Server σ) : Prop :=
  ∀ params (j j' : Journal σ) v, (s.executeCommand params).start j = (.ok v, j') → v.IsResult

theorem Handler.start_withParams {params : Except Fault α} {h : α → Handler σ β} {x : β}
    (hx : (withParams params h).start j = (.ok x, j')) : ∃ p, (h p).start j = (.ok x, j') := by
  cases params with
  | ok p => exact ⟨p, hx⟩
  | error fault => cases hx

/-- What is written for the client is of a type that the interface has. -/
theorem Handler.isResult_written [Content α] (hk : (schema α).kinds ⊆ [.object, .array, .null])
    {h : Handler σ α} (hv : (toJson <$> h).start j = (.ok v, j')) : v.IsResult := by
  rw [start_map] at hv
  cases hx : (h.start j).1 with
  | error e =>
    rw [hx] at hv
    cases hv
  | ok x =>
    rw [hx] at hv
    cases hv
    have hkind := hk (kind_toJson_mem x)
    exact ⟨by simpa using hkind, Json.ordered_sorted _⟩

theorem Server.GivesResults.answer (hs : s.GivesResults) {r : Request} {m : RequestMethod}
    (hv : (s.answer r m).start j = (.ok v, j')) : v.IsResult := by
  cases m with
  | shutdown =>
    rw [Server.answer, Handler.start_map] at hv
    cases hx : (s.shutdown.start j).1 with
    | error e =>
      rw [hx] at hv
      cases hv
    | ok x =>
      rw [hx] at hv
      cases hv
      exact ⟨Or.inr (Or.inr rfl), trivial⟩
  | executeCommand =>
    obtain ⟨p, hp⟩ := Handler.start_withParams hv
    exact hs p _ _ v hp
  | _ =>
    obtain ⟨p, hp⟩ := Handler.start_withParams hv
    exact Handler.isResult_written (by decide) hp

theorem Server.GivesResults.requestHandler (hs : s.GivesResults) {r : Request}
    (hv : (s.requestHandler r).start j = (.ok v, j')) : v.IsResult := by
  unfold Server.requestHandler at hv
  split at hv
  · exact hs.answer hv
  · cases hv

theorem givesResults_quiet : Server.quiet.GivesResults := by
  intro params j j' v h
  cases h
  exact ⟨Or.inr (Or.inr rfl), trivial⟩

theorem givesResults_recorder : Server.recorder.GivesResults := by
  intro params j j' v h
  simp only [Server.recorder, Handler.start_bind] at h
  split at h
  · cases h
    have hkeys : "arguments" < "command" := by decide
    exact ⟨Or.inl rfl, List.pairwise_pair.mpr hkeys, trivial, trivial, trivial⟩
  · cases h

/-! ### Answers -/

theorem Server.GivesResults.isSound_reply (hs : s.GivesResults) {memory : σ} {r : Request}
    (hid : r.id.IsAccepted) : (s.reply memory r).IsSound := by
  unfold Server.reply
  split
  · rename_i hv
    exact Response.isSound_success hid (hs.requestHandler (Prod.ext hv rfl))
  · exact Response.isSound_failure _ fun n h => absurd (Option.some.inj h) (hid n)

theorem Server.GivesResults.isSound_answer (hs : s.GivesResults) {memory : σ} {raw : String} {r : Response}
    (h : s.answer? memory raw = some r) : r.IsSound := by
  unfold Server.answer? at h
  split at h
  · rename_i hparse
    cases h
    exact hs.isSound_reply (Request.isAccepted_of_parse hparse)
  · split at h
    · cases h
    · cases h
      exact Response.isSound_failure _ nofun
  · cases h
  · obtain ⟨id, hid, rfl⟩ := Option.map_eq_some_iff.mp h
    refine Response.isSound_failure _ fun n hn => recoverId?_signed (hid.trans hn)

theorem Server.GivesResults.accepted (hs : s.GivesResults) (raws : List String) (p : Peer σ ρ) :
    ∃ answers, p.outbox.Answers (p.dispatchAll s raws).outbox answers ∧ ∀ r ∈ answers, r.IsAccepted := by
  refine ⟨_, (dispatchAll_answered raws p).1, fun r hr => ?_⟩
  obtain ⟨x, hx, rfl⟩ := List.mem_map.mp hr
  exact (Server.forall_answered (fun _ _ _ => hs.isSound_answer) p.memory raws x hx).isAccepted

end Results

/-- Of every sequence of texts, of both servers and whatever their peers remember and have queued. All that
    is queued are answers, each with the version of the protocol and with either a result or an error; and
    an answer is read as it is, but for the data of its error, unless its id is a number that is no whole
    number of 64 bits. Then it is refused. -/
theorem dispatchAll_accepted {ρ : Type} (raws : List String) :
    (∀ p : Peer Unit ρ, ∃ answers,
      p.outbox.Answers (p.dispatchAll .quiet raws).outbox answers ∧ ∀ r ∈ answers, r.IsAccepted) ∧
    ∀ p : Peer Record ρ, ∃ answers,
      p.outbox.Answers (p.dispatchAll .recorder raws).outbox answers ∧ ∀ r ∈ answers, r.IsAccepted :=
  ⟨givesResults_quiet.accepted raws, givesResults_recorder.accepted raws⟩

end LanguageServer
