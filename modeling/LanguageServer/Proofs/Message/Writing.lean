import LanguageServer.Proofs.Message.Parts

/-! Which messages are read as themselves. A message is written with the members of its form, and what is
    found under each of them is the part that was put there, its objects in order. So a message is read as
    itself if its id is one that is accepted, its params are an object, its result is of one of the three
    types that a result may have, and all free JSON in it is in order; data of an error must not be null,
    which would be read as no data. -/

namespace LanguageServer

open Content

/-- The id is a string or a whole number of 64 bits. -/
def RequestId.IsAccepted (id : RequestId) : Prop := ∀ n, id ≠ .other n

/-- A result of one of the types that a result may have, or an error whose data is not null; in order. -/
def Outcome.IsReadable : Outcome → Prop
  | .result v => (v.kind = .object ∨ v.kind = .array ∨ v.kind = .null) ∧ v.Ordered
  | .error e => ∀ data, e.data = some data → data ≠ .null ∧ data.Ordered

/-- An error as it arrives: its data in order, and null as no data. -/
def ResponseError.arrived (e : ResponseError) : ResponseError :=
  { e with data := (e.data.map Json.sorted).filter (· ≠ .null) }

/-- An outcome as it arrives. -/
def Outcome.arrived : Outcome → Outcome
  | .result v => .result v.sorted
  | .error e => .error e.arrived

/-- An answer as it arrives. -/
def Response.arrived (r : Response) : Response := { r with outcome := r.outcome.map Outcome.arrived }

theorem Response.result?_eq_some_iff {r : Response} {v : Json} :
    r.result? = some v ↔ r.outcome = some (.result v) := by
  rcases r with ⟨id, - | (w | e)⟩ <;> simp [result?]

theorem ResponseError.arrived_eq {e : ResponseError}
    (h : ∀ data, e.data = some data → data ≠ .null ∧ data.Ordered) : e.arrived = e := by
  obtain ⟨code, message, data⟩ := e
  cases data with
  | none => rfl
  | some data =>
    obtain ⟨hnull, ho⟩ := h data rfl
    simp [arrived, Json.sorted_of_ordered data ho, hnull]

theorem Response.arrived_eq {r : Response} (h : ∀ o, r.outcome = some o → o.IsReadable) : r.arrived = r := by
  rcases r with ⟨id, - | (v | e)⟩
  · rfl
  · simp [arrived, Outcome.arrived, Json.sorted_of_ordered v (h _ rfl).2]
  · simp [arrived, Outcome.arrived, ResponseError.arrived_eq (h _ rfl)]

theorem RequestId.ofJson?_toJson {id : RequestId} (h : id.IsAccepted) : ofJson? id.toJson = some id := by
  cases id with
  | name text => rfl
  | number n =>
    have hsigned : (Json.Number.int n.toInt).signed? = some n.toInt :=
      Json.Number.signed?_eq_some_iff.mpr ⟨rfl, n.le_toInt, n.toInt_lt⟩
    rw [toJson, Json.int, ofJson?, hsigned, Option.map_some, Int64.ofInt_toInt]
  | other n => exact absurd rfl (h n)

namespace Message

variable {r : Request} {n : Notification} {answer : Response}

/-! ### The members that are written -/

theorem write_request : (request r).write = .obj ([("jsonrpc", .str "2.0"), ("id", r.id.toJson),
    ("method", .str r.method)] ++ (r.params.map ("params", ·)).toList) := by
  obtain ⟨id, method, params⟩ := r
  cases params <;> rfl

theorem write_notification : (notification n).write = .obj ([("jsonrpc", .str "2.0"),
    ("method", .str n.method)] ++ (n.params.map ("params", ·)).toList) := by
  obtain ⟨method, params⟩ := n
  cases params <;> rfl

theorem write_response : (response answer).write = .obj ([("jsonrpc", .str "2.0"), ("id", answer.idJson)] ++
    (answer.outcome.map fun
      | .result v => ("result", v)
      | .error e => ("error", Content.write e)).toList) := by
  obtain ⟨id, outcome⟩ := answer
  rcases id with - | id <;> rcases outcome with - | (v | e) <;> rfl

theorem write_error {e : ResponseError} : Content.write e = .obj ([("code", .int e.code.toInt),
    ("message", .str e.message)] ++ (e.data.map ("data", ·)).toList) := by
  obtain ⟨code, message, data⟩ := e
  cases data <;> rfl

/-! ### What is found in a message -/

/-- What is found under a key of a record that was written. -/
theorem get?_encode {fields : Fields} (hkeys : fields.keys.Nodup) (x : fields.Value) (key : String) :
    Json.Members.get? key (Json.Members.ofList (Json.sortedMembers (fields.encode x))) =
      (Json.Members.get? key (fields.encode x)).map Json.sorted :=
  Json.get?_sorted (hkeys.sublist (fields.keys_encode_sublist x))

theorem members_request (r : Request) :
    ∃ members : Json.Members, (request r).toJson = .obj members ∧ members.IsVersioned ∧
      members.get? "id" = some r.id.toJson ∧ members.get? "method" = some (.str r.method) ∧
        members.get? "params" = r.params.map Json.sorted := by
  obtain ⟨id, method, params⟩ := r
  have hget := @get?_encode (.version <| .required "id" (.nested .requestId) <|
    .required "method" (.plain .string) <| .optional "params" (.plain .object) .nil) (by decide)
    (id, method, params, ())
  refine ⟨_, rfl, hget "jsonrpc", (hget "id").trans ?_, hget "method", (hget "params").trans ?_⟩
  · exact congrArg some RequestId.sorted_toJson
  · cases params <;> rfl

theorem members_notification (n : Notification) :
    ∃ members : Json.Members, (notification n).toJson = .obj members ∧ members.IsVersioned ∧
      members.get? "id" = none ∧ members.get? "method" = some (.str n.method) ∧
        members.get? "params" = n.params.map Json.sorted := by
  obtain ⟨method, params⟩ := n
  have hget := @get?_encode (.version <| .required "method" (.plain .string) <|
    .optional "params" (.plain .object) <| .without "id" .nil) (by decide) (method, params, ())
  refine ⟨_, rfl, hget "jsonrpc", (hget "id").trans ?_, hget "method", (hget "params").trans ?_⟩
  · cases params <;> rfl
  · cases params <;> rfl

theorem members_error (e : ResponseError) :
    ∃ members : Json.Members, Content.toJson e = .obj members ∧
      members.get? "code" = some (.int e.code.toInt) ∧ members.get? "message" = some (.str e.message) ∧
        members.get? "data" = e.data.map Json.sorted := by
  obtain ⟨code, message, data⟩ := e
  have hget := @get?_encode (.required "code" (.plain .integer) <| .required "message" (.plain .string) <|
    .optional "data" .free .nil) (by decide) (code, message, data, ())
  refine ⟨_, rfl, hget "code", hget "message", (hget "data").trans ?_⟩
  cases data <;> rfl

/-- An answer is written without a method, and with one of a result and an error if it has an outcome. -/
theorem members_response (answer : Response) :
    ∃ members : Json.Members, (response answer).toJson = .obj members ∧ members.IsVersioned ∧
      members.get? "id" = some answer.idJson ∧ members.get? "method" = none ∧
        members.get? "result" = answer.result?.map Json.sorted ∧
        members.get? "error" = answer.error?.map Content.toJson := by
  have hid := answer.get?_id_toJson
  obtain ⟨id, outcome⟩ := answer
  have hget := @get?_encode (.version <| .required "id" (.nested (.nullable .requestId)) <|
    .outcome "result" "error" ResponseError.schema .nil) (by decide) (id, Response.packOutcome outcome, ())
  refine ⟨_, rfl, ?_, hid, ?_, ?_, ?_⟩
  · exact hget "jsonrpc"
  · refine (hget "method").trans ?_
    rcases outcome with - | (v | e) <;> rfl
  · refine (hget "result").trans ?_
    rcases outcome with - | (v | e) <;> rfl
  · refine (hget "error").trans ?_
    rcases outcome with - | (v | e) <;> rfl

theorem get?_method_response : (response answer).toJson.get? "method" = none := by
  obtain ⟨members, hmembers, -, -, hmethod, -⟩ := members_response answer
  rw [hmembers]
  exact hmethod

/-! ### What is read again -/

theorem read_request (hid : r.id.IsAccepted)
    (hp : ∀ p, r.params = some p → p.kind = .object ∧ p.Ordered) :
    read Request (request r).toJson = .ok r := by
  obtain ⟨members, hmembers, hv, hgetid, hmethod, hparams⟩ := members_request r
  rw [hmembers]
  refine Request.read_iff.mpr ⟨hv, ⟨_, hgetid, RequestId.ofJson?_toJson hid⟩, hmethod, hparams.trans ?_,
    fun p h => (hp p h).1⟩
  exact Json.map_sorted_of_ordered fun p h => (hp p h).2

theorem read_notification (hp : ∀ p, n.params = some p → p.kind = .object ∧ p.Ordered) :
    read Notification (notification n).toJson = .ok n := by
  obtain ⟨members, hmembers, hv, hid, hmethod, hparams⟩ := members_notification n
  rw [hmembers]
  refine Notification.read_iff.mpr ⟨hv, ⟨hmethod, hparams.trans ?_, fun p h => (hp p h).1⟩, hid⟩
  exact Json.map_sorted_of_ordered fun p h => (hp p h).2

theorem read_error (e : ResponseError) : read ResponseError (Content.toJson e) = .ok e.arrived := by
  obtain ⟨members, hmembers, hcode, hmessage, hdata⟩ := members_error e
  rw [hmembers]
  exact ResponseError.read_iff.mpr ⟨hcode, hmessage, congrArg _ hdata⟩

theorem read_response (hid : ∀ id, answer.id = some id → id.IsAccepted)
    (hresult : ∀ v, answer.result? = some v → v.kind = .object ∨ v.kind = .array ∨ v.kind = .null) :
    read Response (response answer).toJson = .ok answer.arrived := by
  obtain ⟨members, hmembers, hv, hgetid, -, hr, he⟩ := members_response answer
  rw [hmembers]
  obtain ⟨id, outcome⟩ := answer
  refine Response.read_iff.mpr ⟨hv, ⟨_, hgetid, ?_⟩, ?_⟩
  · cases id with
    | none => rfl
    | some id =>
      have hnull : id.toJson ≠ .null := by cases id <;> nofun
      rw [Response.idJson, Schema.decode?_nullable hnull]
      exact congrArg (Option.map some) (RequestId.ofJson?_toJson (hid id rfl))
  · rcases outcome with - | (v | e)
    · exact ⟨hr, he⟩
    · refine ⟨hr, he, ?_⟩
      rw [Json.kind_sorted]
      exact hresult v rfl
    · exact ⟨hr, _, he, read_error e⟩

/-- The parts of a message are such as are read again as they are. -/
def IsReadable : Message → Prop
  | request r => r.id.IsAccepted ∧ ∀ p, r.params = some p → p.kind = .object ∧ p.Ordered
  | notification n => ∀ p, n.params = some p → p.kind = .object ∧ p.Ordered
  | response r => (∀ id, r.id = some id → id.IsAccepted) ∧ ∀ o, r.outcome = some o → o.IsReadable

theorem ofJson_of_readable {m : Message} (h : m.IsReadable) : ofJson m.toJson = .ok m := by
  cases m with
  | request r => exact ofJson_request (read_request h.1 h.2)
  | notification n => exact ofJson_notification (read_notification h)
  | response answer =>
    have hresult : ∀ v, answer.result? = some v → v.kind = .object ∨ v.kind = .array ∨ v.kind = .null :=
      fun v hv => (h.2 (.result v) (Response.result?_eq_some_iff.mp hv)).1
    rw [ofJson_response (read_response h.1 hresult) get?_method_response, Response.arrived_eq h.2]

end Message

end LanguageServer
