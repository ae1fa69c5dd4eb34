import LanguageServer.Proofs.Json.Writer
import LanguageServer.Proofs.Message.Writing
import LanguageServer.Proofs.Schema.RoundTrip

/-! Writing a message that was read, and reading it again. A message is written with the members that its
    kind speaks of, each as it was read, and of an error with its code, its message and its data. This reads
    as the same message (`Message.ofJson_toJson`). The text of a message is within the bounds of a text if
    the message was read from one, so the round trip goes through the text, for a message without doubles
    (`Message.parse_text_of_parse`). -/

namespace LanguageServer

/-! ### What is kept of a message -/

/-- The keys that a message of the kind has. -/
def MessageKind.keys : MessageKind → List String
  | .request => ["jsonrpc", "id", "method", "params"]
  | .notification => ["jsonrpc", "method", "params"]
  | .response => ["jsonrpc", "id", "result", "error"]
  | .unknown => []

/-- An error with its code, its message and its data alone; null is no data. -/
def Json.keptError : Json → Json
  | .obj members =>
    .obj (members.filter fun m => m.1 = "code" ∨ m.1 = "message" ∨ m.1 = "data" ∧ m.2 ≠ .null)
  | v => v

/-- What a message of the kind keeps of a member. -/
def MessageKind.keep (kind : MessageKind) (key : String) (v : Json) : Option Json :=
  if key ∈ kind.keys then some (if key = "error" then v.keptError else v) else none

/-- What a message of the kind keeps of the members of an object. -/
def MessageKind.kept (kind : MessageKind) (members : Json.Members) : Json.Members :=
  members.filterMap fun m => (kind.keep m.1 m.2).map (m.1, ·)

theorem MessageKind.get?_kept {kind : MessageKind} {members : Json.Members} {key : String}
    (hn : (Json.Members.keys members).Nodup) :
    Json.Members.get? key (kind.kept members) = (members.get? key).bind (kind.keep key) :=
  Json.Members.get?_filterMap hn

namespace Message

open Content

variable {members : Json.Members} {v : Json} {m : Message} {r : Request} {n : Notification}
  {answer : Response} {levels : Nat}

theorem normal_record {kind : MessageKind} {fields : Fields} {name : String}
    (hnulls : fields.nullKeys = []) (hkeep : ∀ key w, fields.keep key w = kind.keep key w) :
    (Schema.record name fields).normal (.obj members) = .obj (kind.kept members) := by
  have hsame : (fun m : String × Json => (fields.keep m.1 m.2).map (m.1, ·)) =
      fun m => (kind.keep m.1 m.2).map (m.1, ·) := funext fun m => by rw [hkeep]
  rw [Schema.normal, hnulls, hsame]
  rfl

theorem normal_request :
    Request.schema.normal (.obj members) = .obj (MessageKind.request.kept members) := by
  refine normal_record rfl fun key w => ?_
  simp only [Fields.keep, MessageKind.keep, MessageKind.keys, versionKey]
  grind [Slot.normal, Schema.normal, Slot.dropsNull]

theorem normal_notification :
    Notification.schema.normal (.obj members) = .obj (MessageKind.notification.kept members) := by
  refine normal_record rfl fun key w => ?_
  simp only [Fields.keep, MessageKind.keep, MessageKind.keys, versionKey]
  grind [Slot.normal, Slot.dropsNull]

theorem normal_error : ResponseError.schema.normal v = v.keptError := by
  cases v with
  | obj members =>
    have hsame : (fun m : String × Json => ((Fields.required "code" (.plain .integer) <|
        .required "message" (.plain .string) <| .optional "data" .free .nil).keep m.1 m.2).map (m.1, ·)) =
        Option.guard fun m => m.1 = "code" ∨ m.1 = "message" ∨ m.1 = "data" ∧ m.2 ≠ .null := by
      funext m
      obtain ⟨key, w⟩ := m
      simp only [Fields.keep, Option.guard]
      cases w <;> grind [Slot.normal, Slot.dropsNull]
    rw [Json.keptError, ← List.filterMap_eq_filter, ← hsame]
    rfl
  | _ => rfl

theorem normal_response :
    Response.schema.normal (.obj members) = .obj (MessageKind.response.kept members) := by
  refine normal_record rfl fun key w => ?_
  have hid : (Schema.nullable .requestId).normal w = w := by cases w <;> rfl
  simp only [Fields.keep, Slot.normal, hid, normal_error, MessageKind.keep, MessageKind.keys, versionKey]
  grind

/-- A message is written as what its kind keeps of the object that it was read from. -/
theorem toJson_of_ofJson (ho : v.Ordered) (h : ofJson v = .ok m) :
    ∃ members, v = .obj members ∧ m.toJson = .obj (m.kind.kept members) := by
  obtain ⟨members, rfl, -, hm⟩ := ofJson_inv h
  refine ⟨members, rfl, ?_⟩
  cases m with
  | request r => exact (toJson_of_read ho hm.2).trans normal_request
  | notification n => exact (toJson_of_read ho hm.2).trans normal_notification
  | response r => exact (toJson_of_read ho hm.2).trans normal_response

/-! ### Reading it again -/

/-- A message that was read is written so that it reads as itself. -/
theorem ofJson_toJson (ho : v.Ordered) (h : ofJson v = .ok m) : ofJson m.toJson = .ok m := by
  obtain ⟨members, rfl, -, hm⟩ := ofJson_inv h
  cases m with
  | request r => exact ofJson_request (read_toJson ho hm.2)
  | notification n => exact ofJson_notification (read_toJson ho hm.2)
  | response answer => exact ofJson_response (read_toJson ho hm.2) get?_method_response

/-! ### Through the text -/

/-- Members that all messages of a kind have, and one that may be left out. -/
theorem bounded_members {first : Json.Members} {last : Option (String × Json)}
    (hfirst : ∀ m ∈ first, m.2.Bounded levels) (hlast : ∀ m, last = some m → m.2.Bounded levels) :
    (Json.obj (first ++ last.toList)).Bounded (levels + 1) := by
  rw [Json.bounded_obj, List.forall_mem_append]
  refine ⟨hfirst, fun m hm => hlast m ?_⟩
  exact Option.mem_toList.mp hm

theorem bounded_last {key : String} {w : Option Json} (h : ∀ v, w = some v → v.Bounded levels) :
    ∀ m, w.map (key, ·) = some m → m.2.Bounded levels := by
  intro m hm
  obtain ⟨v, hv, rfl⟩ := Option.map_eq_some_iff.mp hm
  exact h v hv

theorem bounded_error {e : ResponseError} (hb : v.Bounded levels) (h : read ResponseError v = .ok e) :
    (Content.write e).Bounded levels := by
  obtain ⟨members, rfl, -⟩ := ResponseError.conforms_iff.mp (read_eq_ok_iff.mp h).1
  obtain ⟨hcode, -, hdata⟩ := ResponseError.read_iff.mp h
  cases levels with
  | zero => exact absurd hb Json.not_bounded_obj
  | succ levels =>
    rw [write_error]
    refine bounded_members (List.forall_mem_cons.mpr ⟨hb.of_get? hcode, ?_⟩) (bounded_last fun w hw => ?_)
    · exact List.forall_mem_singleton.mpr Json.bounded_str
    · exact hb.of_get? (Option.eq_some_of_filter_eq_some (hdata.trans hw))

/-- A message is within the bounds of the value that it was read from. -/
theorem bounded_write (hb : v.Bounded levels) (h : ofJson v = .ok m) : m.write.Bounded levels := by
  obtain ⟨members, rfl, -, hm⟩ := ofJson_inv h
  cases levels with
  | zero => exact absurd hb Json.not_bounded_obj
  | succ levels =>
    cases m with
    | request r =>
      obtain ⟨-, -, -, hparams, -⟩ := Request.read_iff.mp hm.2
      have hid : r.id.toJson.Bounded levels := hb.of_get? (Request.id_of_read hm.2)
      rw [write_request]
      refine bounded_members ?_ (bounded_last fun p hp => hb.of_get? (hparams.trans hp))
      exact List.forall_mem_cons.mpr ⟨Json.bounded_str, List.forall_mem_cons.mpr ⟨hid,
        List.forall_mem_singleton.mpr Json.bounded_str⟩⟩
    | notification n =>
      obtain ⟨-, ⟨-, hparams, -⟩, -⟩ := Notification.read_iff.mp hm.2
      rw [write_notification]
      refine bounded_members ?_ (bounded_last fun p hp => hb.of_get? (hparams.trans hp))
      exact List.forall_mem_cons.mpr ⟨Json.bounded_str, List.forall_mem_singleton.mpr Json.bounded_str⟩
    | response answer =>
      obtain ⟨-, -, houtcome⟩ := Response.read_iff.mp hm.2
      have hid : answer.idJson.Bounded levels := hb.of_get? (Response.id_of_read hm.2)
      rw [write_response]
      refine bounded_members ?_ fun last hlast => ?_
      · exact List.forall_mem_cons.mpr ⟨Json.bounded_str, List.forall_mem_singleton.mpr hid⟩
      · obtain ⟨o, ho, rfl⟩ := Option.map_eq_some_iff.mp hlast
        rw [ho] at houtcome
        cases o with
        | result v => exact hb.of_get? houtcome.1
        | error e =>
          obtain ⟨-, w, hw, he⟩ := houtcome
          exact bounded_error (hb.of_get? hw) he

/-- Of every text that is a message without doubles. Its text reads as the same message, and as JSON it is
    the value of the message; this is the object that was read with the members that the kind keeps, each
    under its key as it was, but for an error with other members than its own. -/
theorem parse_text_of_parse {s : String} (h : parse s = .ok m) (hn : ∀ n ∈ m.write.numbers, n.IsInt) :
    parse m.text = .ok m ∧ Json.read m.text = .ok m.toJson ∧
      ∃ members : Json.Members, Json.read s = .ok (.obj members) ∧ m.toJson = .obj (m.kind.kept members) ∧
        ∀ key ∈ m.kind.keys, key ≠ "error" → m.toJson.get? key = members.get? key := by
  cases hs : Json.read s with
  | error fault =>
    rw [parse, hs] at h
    cases h
  | ok v =>
    rw [parse, hs] at h
    have ho := Json.ordered_of_read hs
    have hread : Json.read m.text = .ok m.toJson :=
      Json.read_compact (bounded_write (Json.bounded_of_read hs) h) hn
    refine ⟨?_, hread, ?_⟩
    · rw [parse, hread]
      exact ofJson_toJson ho h
    · obtain ⟨members, rfl, hkept⟩ := toJson_of_ofJson ho h
      refine ⟨members, rfl, hkept, fun key hkey hne => ?_⟩
      have hn := Json.Members.nodup_of_rising (Json.ordered_obj.mp ho).1
      rw [hkept]
      refine (MessageKind.get?_kept hn).trans ?_
      cases Json.Members.get? key members <;> simp [MessageKind.keep, hkey, hne]

/-- An answer with the result null, and a member that no answer has. -/
theorem parse_text_of_parse_null :
    let s := "\x7b\"result\":null,\"x\":true,\"id\":7,\"jsonrpc\":\"2.0\"\x7d"
    let m := response (.success (some (.number 7)) .null)
    parse s = .ok m ∧ (∀ n ∈ m.write.numbers, n.IsInt) ∧ parse m.text = .ok m ∧
      Json.read m.text = .ok (.obj [("id", .int 7), ("jsonrpc", .str "2.0"), ("result", .null)]) := by
  intro s m
  have h : parse s = .ok m := Except.eq_ok_of_toOption (by decide +kernel)
  have hn : ∀ n ∈ m.write.numbers, n.IsInt := List.forall_mem_singleton.mpr ⟨7, rfl⟩
  obtain ⟨hback, hread, -⟩ := parse_text_of_parse h hn
  exact ⟨h, hn, hback, hread⟩

end Message

end LanguageServer
