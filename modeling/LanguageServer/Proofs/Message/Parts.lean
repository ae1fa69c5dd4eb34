import LanguageServer.Proofs.Message.Ids
import LanguageServer.Proofs.Schema.NormalForm

/-! Reading a message, part by part. For each form it is told which members an object has to have to be read
    as a given value of the form. So what is read can be told from the members and the other way round,
    without a look at how the schema of the form is read. -/

namespace LanguageServer

open Content

variable {members : Json.Members} {v : Json}

/-! ### Parts that are read -/

theorem PropertyKind.decode?_string {s : String} : string.decode? v = some s ↔ v = .str s := by
  cases v <;> simp [decode?]

theorem PropertyKind.decode?_object {w : Json} : object.decode? v = some w ↔ v = w ∧ v.kind = .object := by
  cases v <;> simp [decode?, Json.kind]

theorem PropertyKind.decode?_integer {i : Int32} : integer.decode? v = some i ↔ v = .int i.toInt := by
  cases v <;> simp [decode?, integer?_eq_some_iff, Json.int]

theorem Except.eq_ok_of_toOption {ε α : Type} {e : Except ε α} {x : α} (h : e.toOption = some x) :
    e = .ok x := by
  cases e with
  | error fault => cases h
  | ok y => exact congrArg Except.ok (Option.some.inj h)

theorem Option.map_mk_eq_some_iff {α β : Type} {o : Option β} {x x' : α} {y : β} :
    o.map (x, ·) = some (x', y) ↔ x = x' ∧ o = some y := by
  cases o <;> simp

/-- Of what is found, only one value is such. -/
theorem Option.exists_eq_some_and_iff {α : Type} {o : Option α} {P : α → Prop} {x : α}
    (h : ∀ y, P y ↔ y = x) : (∃ y, o = some y ∧ P y) ↔ o = some x := by
  simp [h]

namespace Fields

variable {key result error : String} {late : Bool} {slot : Slot} {rest : Fields} {y : rest.Value}

theorem required_eq_some_iff {x : slot.Value} :
    (cons key late .required slot rest).decode? members = some (x, y) ↔
      (∃ v, members.get? key = some v ∧ slot.decode? v = some x) ∧ rest.decode? members = some y := by
  cases hv : members.get? key with
  | none => simp [decode?, hv]
  | some v => simp [decode?_required hv, Option.bind_eq_some_iff]

theorem optional_eq_some_iff {x : Option slot.Value} (hslot : ∀ v, slot.dropsNull v = false) :
    (cons key late .optional slot rest).decode? members = some (x, y) ↔
      (match x with
        | none => members.get? key = none
        | some x => ∃ v, members.get? key = some v ∧ slot.decode? v = some x) ∧
      rest.decode? members = some y := by
  cases hv : members.get? key with
  | none =>
    rw [decode?_optional_of_absent (Or.inl hv), Option.map_mk_eq_some_iff]
    cases x <;> simp
  | some v =>
    rw [decode?_optional hv (hslot v)]
    cases x <;> simp [Option.bind_eq_some_iff]

/-- Null in free JSON that may be left out is read as nothing. -/
theorem free_eq_some_iff {x : Option Json} :
    (cons key late .optional .free rest).decode? members = some (x, y) ↔
      (members.get? key).filter (· ≠ .null) = x ∧ rest.decode? members = some y := by
  cases hv : members.get? key with
  | none => rw [decode?_optional_of_absent (Or.inl hv), Option.map_mk_eq_some_iff, Option.filter_none]
  | some v =>
    by_cases hnull : v = .null
    · have hdrop : Slot.dropsNull .free v = true := hnull ▸ rfl
      have hkept : (some v).filter (· ≠ .null) = none := by simp [hnull]
      rw [decode?_optional_of_absent (Or.inr ⟨v, hv, hdrop⟩), Option.map_mk_eq_some_iff, hkept]
    · have hdrop : Slot.dropsNull .free v = false := by
        cases v with
        | null => exact absurd rfl hnull
        | _ => rfl
      have hkept : (some v).filter (· ≠ .null) = some v := by simp [hnull]
      rw [decode?_optional hv hdrop, Slot.decode?, Option.bind_some, Option.map_mk_eq_some_iff, hkept]

/-- The outcome is a result, or an error that is read as its form tells, or neither. -/
theorem outcome_eq_some_iff {form : Schema} {x : Option (Json ⊕ form.Value)}
    (hboth : members.get? result = none ∨ members.get? error = none) :
    (outcome result error form rest).decode? members = some (x, y) ↔
      (match x with
        | none => members.get? result = none ∧ members.get? error = none
        | some (.inl v) => members.get? result = some v
        | some (.inr e) => ∃ v, members.get? error = some v ∧ form.decode? v = some e) ∧
      rest.decode? members = some y := by
  cases hr : members.get? result with
  | some v =>
    have he : members.get? error = none := hboth.resolve_left (Option.ne_none_iff_exists'.mpr ⟨v, hr⟩)
    rw [decode?_outcome_of_result hr, Option.map_mk_eq_some_iff]
    rcases x with - | (w | e) <;> simp [he]
  | none =>
    cases he : members.get? error with
    | some v =>
      rw [decode?_outcome_of_error hr he]
      rcases x with - | (w | e) <;> simp [Option.bind_eq_some_iff]
    | none =>
      rw [decode?_outcome_of_absent hr he, Option.map_mk_eq_some_iff]
      rcases x with - | (w | e) <;> simp

end Fields

/-! ### The forms -/

/-- An error is read with the code, the message and the data of its object; null is no data. -/
theorem ResponseError.read_iff {e : ResponseError} :
    read ResponseError (.obj members) = .ok e ↔
      members.get? "code" = some (.int e.code.toInt) ∧ members.get? "message" = some (.str e.message) ∧
        (members.get? "data").filter (· ≠ .null) = e.data := by
  have hdecode : ResponseError.schema.decode? (.obj members) = some (pack e) ↔
      members.get? "code" = some (.int e.code.toInt) ∧ members.get? "message" = some (.str e.message) ∧
        (members.get? "data").filter (· ≠ .null) = e.data := by
    refine Fields.required_eq_some_iff.trans (and_congr ?_ (Fields.required_eq_some_iff.trans
      (and_congr ?_ (Fields.free_eq_some_iff.trans (and_iff_left rfl)))))
    · exact Option.exists_eq_some_and_iff fun _ => PropertyKind.decode?_integer
    · exact Option.exists_eq_some_and_iff fun _ => PropertyKind.decode?_string
  refine read_eq_ok_iff.trans ((and_congr_right fun _ => hdecode).trans ?_)
  refine and_iff_right_of_imp ?_
  rintro ⟨hcode, hmessage, -⟩
  refine ResponseError.conforms_iff.mpr ⟨members, rfl, ⟨_, hcode, ?_⟩, ⟨_, hmessage, ?_⟩⟩
  · exact ⟨_, rfl, e.code.le_toInt, e.code.toInt_lt⟩
  · exact ⟨_, rfl⟩

/-- A string under `method` and, if there are params, an object under `params`. -/
def Json.Members.HasCall (members : Json.Members) (method : String) (params : Option Json) : Prop :=
  members.get? "method" = some (.str method) ∧ members.get? "params" = params ∧
    ∀ p, params = some p → p.kind = .object

theorem Fields.call_eq_some_iff {rest : Fields} {method : String} {params : Option Json} {y : rest.Value} :
    (required "method" (.plain .string) (optional "params" (.plain .object) rest)).decode? members =
        some (method, params, y) ↔
      members.HasCall method params ∧ rest.decode? members = some y := by
  have hparams : (optional "params" (.plain .object) rest).decode? members = some (params, y) ↔
      (members.get? "params" = params ∧ ∀ p, params = some p → p.kind = .object) ∧
        rest.decode? members = some y := by
    refine (optional_eq_some_iff fun _ => rfl).trans (and_congr_left fun _ => ?_)
    cases params with
    | none => simp
    | some p =>
      refine (exists_congr fun v => and_congr_right fun _ => PropertyKind.decode?_object).trans ?_
      constructor
      · rintro ⟨v, hv, rfl, hkind⟩
        refine ⟨hv, fun p hp => ?_⟩
        cases hp
        exact hkind
      · rintro ⟨hv, hkind⟩
        exact ⟨p, hv, rfl, hkind p rfl⟩
  rw [required_eq_some_iff, hparams, Json.Members.HasCall]
  have hmethod : (∃ v, members.get? "method" = some v ∧ (Slot.plain .string).decode? v = some method) ↔
      members.get? "method" = some (.str method) :=
    Option.exists_eq_some_and_iff fun _ => PropertyKind.decode?_string
  rw [hmethod]
  exact and_assoc.symm

theorem Json.Members.HasCall.isCall {method : String} {params : Option Json}
    (h : members.HasCall method params) : members.IsCall := by
  obtain ⟨hmethod, hparams, hkind⟩ := h
  exact ⟨⟨_, hmethod, method, rfl⟩, fun p hp => hkind p (hparams.symm.trans hp)⟩

/-- The outcome is there: a result of one of three types, or an object that is read as an error, or
    neither. -/
def Json.Members.HasOutcome (members : Json.Members) : Option Outcome → Prop
  | none => members.get? "result" = none ∧ members.get? "error" = none
  | some (.result v) =>
    members.get? "result" = some v ∧ members.get? "error" = none ∧
      (v.kind = .object ∨ v.kind = .array ∨ v.kind = .null)
  | some (.error e) =>
    members.get? "result" = none ∧ ∃ v, members.get? "error" = some v ∧ Content.read ResponseError v = .ok e

/-- The id of a request is read as it is compared, and the method and the params are there. -/
theorem Request.read_iff {r : Request} :
    read Request (.obj members) = .ok r ↔
      members.IsVersioned ∧ (∃ v, members.get? "id" = some v ∧ RequestId.ofJson? v = some r.id) ∧
        members.HasCall r.method r.params := by
  have hdecode : (Fields.required "id" (.nested .requestId) <| .required "method" (.plain .string) <|
      .optional "params" (.plain .object) .nil).decode? members = some (r.id, r.method, r.params, ()) ↔
      (∃ v, members.get? "id" = some v ∧ RequestId.ofJson? v = some r.id) ∧
        members.HasCall r.method r.params := by
    rw [Fields.required_eq_some_iff, Fields.call_eq_some_iff]
    exact and_congr_right fun _ => and_iff_left rfl
  have hread : read Request (.obj members) = .ok r ↔ _ ∧ _ := read_eq_ok_iff
  refine hread.trans ((and_congr Request.conforms_iff hdecode).trans ?_)
  constructor
  · rintro ⟨⟨hv, -⟩, h⟩
    exact ⟨hv, h⟩
  · rintro ⟨hv, ⟨w, hid, hread⟩, hcall⟩
    have his : w.IsId := Json.ofJson?_isSome_iff.mp (hread ▸ rfl)
    exact ⟨⟨hv, ⟨w, hid, his⟩, hcall.isCall⟩, ⟨w, hid, hread⟩, hcall⟩

/-- The method and the params of a notification are there, and no id. -/
theorem Notification.read_iff {n : Notification} :
    read Notification (.obj members) = .ok n ↔
      members.IsVersioned ∧ members.HasCall n.method n.params ∧ members.get? "id" = none := by
  have hdecode : (Fields.required "method" (.plain .string) <| .optional "params" (.plain .object) <|
      .without "id" .nil).decode? members = some (n.method, n.params, ()) ↔
      members.HasCall n.method n.params := by
    rw [Fields.call_eq_some_iff]
    exact and_iff_left rfl
  have hread : read Notification (.obj members) = .ok n ↔ _ ∧ _ := read_eq_ok_iff
  refine hread.trans ((and_congr Notification.conforms_iff hdecode).trans ?_)
  constructor
  · rintro ⟨⟨hv, -, hid⟩, hcall⟩
    exact ⟨hv, hcall, hid⟩
  · rintro ⟨hv, hcall, hid⟩
    exact ⟨⟨hv, hcall.isCall, hid⟩, hcall⟩

theorem Response.outcome_of_decode? {o : Option Outcome} (hshape : members.IsAnswer)
    (h : (Fields.outcome "result" "error" ResponseError.schema .nil).decode? members =
      some (Response.packOutcome o, ())) : members.HasOutcome o := by
  obtain ⟨houtcome, -⟩ := (Fields.outcome_eq_some_iff hshape.notBoth).mp h
  rcases o with - | (v | e)
  · exact houtcome
  · have hsome := Option.ne_none_iff_exists'.mpr ⟨v, houtcome⟩
    exact ⟨houtcome, hshape.notBoth.resolve_left hsome, hshape.result v houtcome⟩
  · obtain ⟨v, hv, he⟩ := houtcome
    have hsome := Option.ne_none_iff_exists'.mpr ⟨v, hv⟩
    have hconforms := ResponseError.conforms_iff.mpr (hshape.error v hv)
    exact ⟨hshape.notBoth.resolve_right hsome, v, hv, read_eq_ok_iff.mpr ⟨hconforms, he⟩⟩

theorem Response.decode?_of_outcome {o : Option Outcome} (h : members.HasOutcome o) :
    (Fields.outcome "result" "error" ResponseError.schema .nil).decode? members =
      some (Response.packOutcome o, ()) := by
  rcases o with - | (v | e)
  · exact Fields.decode?_outcome_of_absent h.1 h.2
  · exact Fields.decode?_outcome_of_result h.1
  · obtain ⟨hnone, v, hv, he⟩ := h
    have hread : ResponseError.schema.decode? v = some (pack e) := (read_eq_ok_iff.mp he).2
    rw [Fields.decode?_outcome_of_error hnone hv, hread]
    rfl

/-- An object with an outcome and an id that may be null has the shape of an answer. -/
theorem Json.Members.HasOutcome.isAnswer {o : Option Outcome} (h : members.HasOutcome o)
    (hid : ∃ v, members.get? "id" = some v ∧ (v = .null ∨ v.IsId)) : members.IsAnswer := by
  rcases o with - | (v | e)
  · obtain ⟨hresult, herror⟩ := h
    exact ⟨hid, fun v hv => absurd (herror.symm.trans hv) nofun,
      fun v hv => absurd (hresult.symm.trans hv) nofun, Or.inl hresult⟩
  · obtain ⟨hresult, herror, hkind⟩ := h
    refine ⟨hid, fun v hv => absurd (herror.symm.trans hv) nofun, fun w hw => ?_, Or.inr herror⟩
    cases hresult.symm.trans hw
    exact hkind
  · obtain ⟨hresult, v, herror, he⟩ := h
    refine ⟨hid, fun w hw => ?_, fun v hv => absurd (hresult.symm.trans hv) nofun, Or.inl hresult⟩
    cases herror.symm.trans hw
    exact ResponseError.conforms_iff.mp (read_eq_ok_iff.mp he).1

/-- The id of a response is null or is read as it is compared, and the outcome is there. -/
theorem Response.read_iff {r : Response} :
    read Response (.obj members) = .ok r ↔
      members.IsVersioned ∧
        (∃ v, members.get? "id" = some v ∧ (Schema.nullable .requestId).decode? v = some r.id) ∧
        members.HasOutcome r.outcome := by
  have hdecode : Response.schema.decode? (.obj members) = some (pack r) ↔
      (∃ v, members.get? "id" = some v ∧ (Schema.nullable .requestId).decode? v = some r.id) ∧
        (Fields.outcome "result" "error" ResponseError.schema .nil).decode? members =
          some (Response.packOutcome r.outcome, ()) :=
    @Fields.required_eq_some_iff members "id" false _ _ _ _
  refine read_eq_ok_iff.trans ((and_congr Response.conforms_iff hdecode).trans ?_)
  constructor
  · rintro ⟨⟨hv, hshape⟩, hid, houtcome⟩
    exact ⟨hv, hid, Response.outcome_of_decode? hshape houtcome⟩
  · rintro ⟨hv, ⟨w, hw, hread⟩, houtcome⟩
    have hid : w = .null ∨ w.IsId := by
      by_cases hnull : w = .null
      · exact Or.inl hnull
      · rw [Schema.decode?_nullable hnull] at hread
        obtain ⟨id, hid, -⟩ := Option.map_eq_some_iff.mp hread
        exact Or.inr (Json.ofJson?_isSome_iff.mp (Option.isSome_iff_exists.mpr ⟨id, hid⟩))
    exact ⟨⟨hv, houtcome.isAnswer ⟨w, hw, hid⟩⟩, ⟨w, hw, hread⟩, Response.decode?_of_outcome houtcome⟩

/-- A response that was read has the id of the value, and it is written as it was read. -/
theorem Response.id_of_read {r : Response} (h : read Response (.obj members) = .ok r) :
    members.get? "id" = some r.idJson := by
  obtain ⟨-, ⟨w, hw, hread⟩, -⟩ := Response.read_iff.mp h
  obtain ⟨id, outcome⟩ := r
  by_cases hnull : w = .null
  · subst hnull
    cases hread
    exact hw
  · rw [Schema.decode?_nullable hnull] at hread
    obtain ⟨id, hid, rfl⟩ := Option.map_eq_some_iff.mp hread
    exact hw.trans (congrArg some (RequestId.toJson_of_ofJson? hid).symm)

/-! ### Messages of a form -/

namespace Message

variable {r : Request} {n : Notification} {answer : Response}

theorem ofJson_request (h : read Request v = .ok r) : ofJson v = .ok (request r) := by
  obtain ⟨members, rfl, -⟩ := (read_eq_ok_iff.mp h).1
  obtain ⟨hv, ⟨id, hid, -⟩, hmethod, -⟩ := Request.read_iff.mp h
  rw [ofJson_of_versioned hv, classify_obj, hid, hmethod, h]
  rfl

theorem ofJson_notification (h : read Notification v = .ok n) : ofJson v = .ok (notification n) := by
  obtain ⟨members, rfl, -⟩ := (read_eq_ok_iff.mp h).1
  obtain ⟨hv, ⟨hmethod, -⟩, hid⟩ := Notification.read_iff.mp h
  rw [ofJson_of_versioned hv, classify_obj, hid, hmethod, h]
  rfl

/-- A value that is read as a response is one as a message, unless it has a method. -/
theorem ofJson_response (h : read Response v = .ok answer) (hm : v.get? "method" = none) :
    ofJson v = .ok (response answer) := by
  obtain ⟨members, rfl, -⟩ := (read_eq_ok_iff.mp h).1
  obtain ⟨hv, ⟨id, hid, -⟩, -⟩ := Response.read_iff.mp h
  have hm : Json.Members.get? "method" members = none := hm
  rw [ofJson_of_versioned hv, classify_obj, hid, hm, h]
  rfl

end Message

end LanguageServer
