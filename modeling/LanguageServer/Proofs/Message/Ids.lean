import LanguageServer.Proofs.Message.Grammar
import LanguageServer.Proofs.Schema.Writing

/-! The ids of messages as JSON values. The id of a request that was read, and the id that a refused request
    is answered under, are written as they were read, and a response is written with its id. So an answer
    carries the id of the request as a JSON value, not only its text. -/

namespace LanguageServer

variable {members : Json.Members} {v w : Json} {id : RequestId}

/-! ### Ids that were read -/

theorem RequestId.kind_of_ofRefused? (h : ofRefused? v = some id) : v.kind = .string ∨ v.kind = .number := by
  cases v with
  | str text => exact Or.inl rfl
  | num n => exact Or.inr rfl
  | _ => cases h

theorem RequestId.exists_ofRefused? (h : v.kind = .string ∨ v.kind = .number) :
    ∃ id, ofRefused? v = some id := by
  cases v with
  | str text => exact ⟨_, rfl⟩
  | num n => exact ⟨_, rfl⟩
  | _ => rcases h with h | h <;> cases h

/-- The id of a refused request is written as it was read, whatever number it is. -/
theorem RequestId.toJson_of_ofRefused? (h : ofRefused? v = some id) : id.toJson = v := by
  cases v with
  | str text => exact toJson_of_ofJson? h
  | num n =>
    rw [ofRefused?, Option.some.injEq] at h
    split at h
    · rename_i i hi
      exact toJson_of_ofJson? (by rw [ofJson?, hi, Option.map_some, h])
    · rw [← h]
      rfl
  | _ => cases h

theorem Json.IsId.kind (h : v.IsId) : v.kind = .string ∨ v.kind = .number := by
  rcases h with ⟨s, rfl⟩ | ⟨n, rfl, -⟩
  · exact Or.inl rfl
  · exact Or.inr rfl

/-- A request that was read has the id of the value, and it is written as it was read. -/
theorem Request.id_of_read {r : Request} (h : Content.read Request (.obj members) = .ok r) :
    members.get? "id" = some r.id.toJson := by
  obtain ⟨hc, hd⟩ := Content.read_eq_ok_iff.mp h
  obtain ⟨-, ⟨v, hv, -⟩, -⟩ := Request.conforms_iff.mp hc
  have hd : (Fields.required "id" (.nested .requestId) <| .required "method" (.plain .string) <|
      .optional "params" (.plain .object) <| .nil).decode? members =
        some (r.id, r.method, r.params, ()) := hd
  rw [Fields.decode?_required hv] at hd
  obtain ⟨id, hid, hd⟩ := Option.bind_eq_some_iff.mp hd
  obtain ⟨_, -, he⟩ := Option.map_eq_some_iff.mp hd
  cases he
  rw [hv, RequestId.toJson_of_ofJson? hid]

/-! ### Ids that are written -/

/-- The id of a response as a JSON value. -/
def Response.idJson (r : Response) : Json :=
  match r.id with
  | some id => id.toJson
  | none => .null

theorem RequestId.sorted_toJson : id.toJson.sorted = id.toJson := by
  cases id <;> rfl

theorem Response.get?_id_toJson (r : Response) : (Content.toJson r).get? "id" = some r.idJson := by
  obtain ⟨id, outcome⟩ := r
  have hkeys : (Fields.version <| .required "id" (.nested (.nullable .requestId)) <|
      .outcome "result" "error" ResponseError.schema .nil).keys.Nodup := by decide
  have hget := Json.get?_sorted (k := "id") (hkeys.sublist
    (Fields.keys_encode_sublist _ (id, Response.packOutcome outcome, ())))
  refine hget.trans ?_
  cases id with
  | none => rfl
  | some id => exact congrArg some RequestId.sorted_toJson

end LanguageServer
