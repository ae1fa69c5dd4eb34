import LanguageServer.Outbound
import LanguageServer.Proofs.Dispatch.Outbox
import LanguageServer.Proofs.Json.Numeral
import LanguageServer.Proofs.Message.Parts
import LanguageServer.Proofs.RequestId
import LanguageServer.Server.Quiet

/-! An answer completes its request. A callback that waits for the answer to a request is called by the
    first payload that is an answer under the text of its id. The result of an answer is an object, an array
    or null; one that is not what the callback takes reaches the callback as an error
    (`dispatch_completes`). A result of another type makes no answer, and the callback goes on waiting
    (`dispatch_true_waits`). -/

namespace LanguageServer

variable {σ ρ : Type} {raw : String} {s : Server σ} {p : Peer σ ρ} {members : Json.Members} {v : Json}

/-! ### Ids of one text -/

namespace RequestId

/-- The text of a whole number has neither a point nor an exponent, so it is the text of no double. -/
theorem text_float_ne {bits : UInt64} {i : Int} : (Json.Number.float bits).text ≠ Json.Number.intText i := by
  intro h
  have hplain : ∀ c ∈ Json.Number.intText i, c.isDigit = true ∨ c = '-' := by
    cases i with
    | ofNat k => exact fun c hc => Or.inl (Json.Number.isDigit_toDigits k c hc)
    | negSucc k =>
      refine List.forall_mem_cons.mpr ⟨Or.inr rfl, fun c hc => ?_⟩
      exact Or.inl (Json.Number.isDigit_toDigits (k + 1) c hc)
  rw [← h] at hplain
  rcases Json.Number.exists_mem_text_float bits with hmem | hmem
  · exact absurd (hplain _ hmem) (by decide)
  · exact absurd (hplain _ hmem) (by decide)

/-- A value with the text of a whole number of 64 bits is accepted as an id if it is a number at all. -/
theorem ofJson?_of_text {n : Int64} {id : RequestId} (h : ofRefused? v = some id)
    (ht : id.text = (number n).text) : ofJson? v = some id := by
  cases v with
  | str text => exact h
  | num m =>
    cases hm : m.signed? with
    | some i =>
      simp only [ofRefused?, hm] at h
      rw [ofJson?, hm, Option.map_some, h]
    | none =>
      simp only [ofRefused?, hm] at h
      cases h
      have ht : m.text = Json.Number.intText n.toInt := String.ofList_inj.mp ht
      cases m with
      | float bits => exact absurd ht text_float_ne
      | int i =>
        -- A whole number out of range has digits of its own, so it is not the counted one.
        have hi : i = n.toInt := Json.Number.eq_of_intText ht
        have hsigned : (Json.Number.int i).signed? = some i :=
          Json.Number.signed?_eq_some_iff.mpr ⟨rfl, hi ▸ n.le_toInt, hi ▸ n.toInt_lt⟩
        cases hm.symm.trans hsigned
  | _ => cases h

end RequestId

/-! ### What becomes of the answer -/

/-- A payload with an outcome and an id that is accepted is read as the answer under this id. -/
theorem Message.parse_of_outcome {id : RequestId} {o : Outcome} (hr : Json.read raw = .ok (.obj members))
    (hv : members.IsVersioned) (hm : members.get? "method" = none) (hid : members.get? "id" = some v)
    (hread : RequestId.ofJson? v = some id) (ho : members.HasOutcome (some o)) :
    Message.parse raw = .ok (.response { id := some id, outcome := some o }) := by
  have hnull : v ≠ .null := by
    rintro rfl
    cases hread
  have hnullable : (Schema.nullable .requestId).decode? v = some (some id) := by
    rw [Schema.decode?_nullable hnull]
    exact congrArg (Option.map some) hread
  have hanswer : Content.read Response (.obj members) = .ok { id := some id, outcome := some o } :=
    Response.read_iff.mpr ⟨hv, ⟨v, hid, hnullable⟩, ho⟩
  rw [parse_of_read hr]
  exact ofJson_response hanswer hm

/-- A callback that waits under a text waits no more after it was called. -/
theorem Outbox.waiting?_filter {o : Outbox ρ} {key : String} :
    ({ o with pending := o.pending.filter fun w => w.1 ≠ key } : Outbox ρ).waiting? key = none := by
  refine waiting?_eq_none_iff.mpr fun h => ?_
  obtain ⟨w, hw, hkey⟩ := List.mem_map.mp h
  have hne := (List.mem_filter.mp hw).2
  simp [hkey] at hne

theorem Response.outcomeAs_result {α : Type} [Content α] {id : Option RequestId} {w : Json} :
    ({ id, outcome := some (.result w) } : Response).outcomeAs α =
      match Content.read α w with
      | .ok x => .ok x
      | .error fault => .error (.ofException (.ofFault fault)) := rfl

/-- A payload that is an answer under the text of a request that waits, of every server and every outbox.
    The callback is called once, with the answer, and waits no more, and nothing else changes. A callback
    that takes the result as an interface is given the error, or the result as the interface, or a parse
    error if the result does not have the form of the interface. -/
theorem dispatch_completes {n : Int64} {callback : Callback ρ} {id : RequestId} {o : Outcome}
    (hw : p.outbox.waiting? (RequestId.number n).text = some callback)
    (hr : Json.read raw = .ok (.obj members)) (hv : members.IsVersioned)
    (hm : members.get? "method" = none) (hid : members.get? "id" = some v)
    (hread : RequestId.ofRefused? v = some id) (ht : id.text = (RequestId.number n).text)
    (ho : members.HasOutcome (some o)) :
    let key := (RequestId.number n).text
    let e := (dispatch raw s p).2
    (dispatch raw s p).1 = .ok .response ∧
      e.answer = some (callback { id := some id, outcome := some o }) ∧
      e.peer = ⟨p.memory, { p.outbox with pending := p.outbox.pending.filter fun w => w.1 ≠ key }⟩ ∧
      e.peer.outbox.waiting? key = none ∧
      ∀ (α : Type) [Content α] (f : Except ResponseError α → ρ), callback = .typed α f →
        (∀ err, o = .error err → e.answer = some (f (.error err))) ∧
        (∀ w x, o = .result w → Content.read α w = .ok x → e.answer = some (f (.ok x))) ∧
        ∀ w fault, o = .result w → Content.read α w = .error fault →
          ∃ err, err.knownCode = .parseError ∧ e.answer = some (f (.error err)) := by
  intro key e
  let r : Response := { id := some id, outcome := some o }
  have hparse : Message.parse raw = .ok (.response r) :=
    Message.parse_of_outcome hr hv hm hid (RequestId.ofJson?_of_text hread ht) ho
  have hkey : r.idText? = some key := congrArg some ht
  have hhandle := Outbox.handle_of_waiting hkey hw
  have heffect : e = r.process p := dispatch_of_ok hparse
  have hanswer : e.answer = some (callback r) := by
    rw [heffect, Response.process, hhandle]
  have hpeer : e.peer =
      ⟨p.memory, { p.outbox with pending := p.outbox.pending.filter fun w => w.1 ≠ key }⟩ := by
    rw [heffect, Response.process, hhandle]
  refine ⟨?_, hanswer, hpeer, ?_, ?_⟩
  · rw [dispatch, hparse]
    rfl
  · rw [hpeer]
    exact Outbox.waiting?_filter
  · rintro α _ f rfl
    refine ⟨?_, ?_, ?_⟩
    · rintro err rfl
      exact hanswer
    · rintro w x rfl hx
      rw [hanswer, Callback.typed, Response.outcomeAs_result, hx]
    · rintro w fault rfl hfault
      refine ⟨.ofException (.ofFault fault), rfl, ?_⟩
      rw [hanswer, Callback.typed, Response.outcomeAs_result, hfault]

/-- The folders of the workspace are asked for, and answered with an object in place of an array. -/
theorem dispatch_completes_object :
    let raw := "\x7b\"jsonrpc\":\"2.0\",\"id\":\"0\",\"result\":\x7b\x7d\x7d"
    let f : Except ResponseError (Option (List WorkspaceFolder)) → Option ErrorCode := fun answer =>
      match answer with
      | .ok _ => none
      | .error e => some e.knownCode
    let p : Peer Unit (Option ErrorCode) := ⟨(), (Outbox.empty.workspaceFolders f).2⟩
    p.outbox.waiting? "0" = some (.typed _ f) ∧ (dispatch raw .quiet p).2.answer = some (some .parseError) ∧
      (dispatch raw .quiet p).2.peer.outbox.waiting? "0" = none := by
  intro raw f p
  have hr : Json.read raw =
      .ok (.obj [("id", .str "0"), ("jsonrpc", .str "2.0"), ("result", .obj [])]) :=
    Except.eq_ok_of_toOption (by decide +kernel)
  have hw : p.outbox.waiting? (RequestId.number 0).text = some (.typed _ f) := rfl
  have ho : Json.Members.HasOutcome [("id", .str "0"), ("jsonrpc", .str "2.0"), ("result", .obj [])]
      (some (.result (.obj []))) := ⟨rfl, rfl, Or.inl rfl⟩
  obtain ⟨-, -, -, hwaits, htyped⟩ := @dispatch_completes _ _ raw .quiet p _ _ 0 _ (.name "0") _ hw hr
    rfl rfl rfl rfl rfl ho
  obtain ⟨-, -, hfault⟩ := htyped _ f rfl
  obtain ⟨err, hcode, hanswer⟩ := hfault _ _ rfl rfl
  refine ⟨hw, hanswer.trans ?_, hwaits⟩
  exact congrArg (fun code => some (some code)) hcode

/-- The same request is answered with `true`, which is no result. The payload is dropped, and the callback
    goes on waiting. -/
theorem dispatch_true_waits :
    let raw := "\x7b\"jsonrpc\":\"2.0\",\"id\":0,\"result\":true\x7d"
    let members : Json.Members := [("id", .int 0), ("jsonrpc", .str "2.0"), ("result", .bool true)]
    let p : Peer Unit Bool := ⟨(), (Outbox.empty.workspaceFolders fun _ => true).2⟩
    (p.outbox.waiting? "0").isSome = true ∧ Json.read raw = .ok (.obj members) ∧ members.IsVersioned ∧
      members.get? "method" = none ∧ members.get? "id" = some (.int 0) ∧
      members.get? "result" = some (.bool true) ∧ members.get? "error" = none ∧
      (dispatch raw .quiet p).2.answer = none ∧
      ((dispatch raw .quiet p).2.peer.outbox.waiting? "0").isSome = true := by
  intro raw members p
  have hr : Json.read raw = .ok (.obj members) := Except.eq_ok_of_toOption (by decide +kernel)
  have hanswer : (dispatch raw .quiet p).2.answer = none := by decide +kernel
  have hwaits : ((dispatch raw .quiet p).2.peer.outbox.waiting? "0").isSome = true := by decide +kernel
  exact ⟨rfl, hr, rfl, rfl, rfl, rfl, rfl, hanswer, hwaits⟩

end LanguageServer
