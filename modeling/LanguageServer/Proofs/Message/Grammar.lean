import LanguageServer.Message
import LanguageServer.Proofs.Schema.Blame
import LanguageServer.Proofs.Schema.Reading

/-! The grammar of messages. What a value has to look like to be a message of a kind, said of its members
    one by one. A value that is an object of the supported version and shows a kind by its keys is read as a
    message of that kind exactly when it has the shape of the kind; otherwise the fault names the form of
    the kind or a form nested in it (`Message.ofJson_grammar`). -/

namespace LanguageServer

/-- The value is a string or a whole number of 64 bits with a sign. -/
def Json.IsId (v : Json) : Prop := v.IsText ∨ v.IsWhole (-0x8000000000000000) 0x8000000000000000

/-- A method with params for it: the method is a string, the params are left out or an object. -/
structure Json.Members.IsCall (members : Json.Members) : Prop where
  method : ∃ v, members.get? "method" = some v ∧ v.IsText
  params : ∀ v, members.get? "params" = some v → v.kind = .object

/-- An error: a code of 32 bits with a sign, a message, and any data. -/
structure Json.Members.IsError (members : Json.Members) : Prop where
  code : ∃ v, members.get? "code" = some v ∧ v.IsWhole (-0x80000000) 0x80000000
  message : ∃ v, members.get? "message" = some v ∧ v.IsText

/-- The outcome of a request: an error or a result, or neither, and an id that may be null. -/
structure Json.Members.IsAnswer (members : Json.Members) : Prop where
  id : ∃ v, members.get? "id" = some v ∧ (v = .null ∨ v.IsId)
  error : ∀ v, members.get? "error" = some v → ∃ inner, v = .obj inner ∧ Json.Members.IsError inner
  result : ∀ v, members.get? "result" = some v → v.kind = .object ∨ v.kind = .array ∨ v.kind = .null
  notBoth : members.get? "result" = none ∨ members.get? "error" = none

/-- The members have the shape of the kind. -/
def MessageKind.Shape (members : Json.Members) : MessageKind → Prop
  | .request => (∃ v, members.get? "id" = some v ∧ v.IsId) ∧ members.IsCall
  | .notification => members.IsCall
  | .response => members.IsAnswer
  | .unknown => False

/-- The members are those of a message of the supported version. -/
def Json.Members.IsVersioned (members : Json.Members) : Prop :=
  members.get? "jsonrpc" = some (.str "2.0")

/-! ### Shapes and schemas -/

variable {members : Json.Members} {v : Json}

theorem Json.ne_null_and_object_iff :
    (v ≠ .null ∧ ∃ members, v = .obj members) ↔ v.kind = .object := by
  cases v <;> simp [Json.kind]

theorem ResponseError.conforms_iff :
    ResponseError.schema.Conforms v ↔ ∃ members, v = .obj members ∧ Json.Members.IsError members := by
  simp only [ResponseError.schema, Schema.Conforms, Fields.Conforms, Slot.Conforms, PropertyKind.Conforms,
    true_or, implies_true, and_true]
  exact exists_congr fun _ => and_congr_right fun _ =>
    ⟨fun h => ⟨h.1, h.2⟩, fun h => ⟨h.code, h.message⟩⟩

theorem Request.conforms_iff :
    Request.schema.Conforms (.obj members) ↔
      members.IsVersioned ∧ MessageKind.request.Shape members := by
  simp only [Request.schema, Schema.Conforms, Fields.Conforms, Slot.Conforms, PropertyKind.Conforms,
    Json.obj.injEq, exists_eq_left', reduceCtorEq, false_or, Json.ne_null_and_object_iff, and_true]
  exact and_congr_right fun _ => and_congr_right fun _ =>
    ⟨fun h => ⟨h.1, h.2⟩, fun h => ⟨h.method, h.params⟩⟩

theorem Notification.conforms_iff :
    Notification.schema.Conforms (.obj members) ↔
      members.IsVersioned ∧ MessageKind.notification.Shape members ∧ members.get? "id" = none := by
  simp only [Notification.schema, Schema.Conforms, Fields.Conforms, Slot.Conforms, PropertyKind.Conforms,
    Json.obj.injEq, exists_eq_left', reduceCtorEq, false_or, Json.ne_null_and_object_iff, and_true]
  exact and_congr_right fun _ =>
    ⟨fun h => ⟨⟨h.1, h.2.1⟩, h.2.2⟩, fun h => ⟨h.1.method, h.1.params, h.2⟩⟩

theorem Response.conforms_iff :
    Response.schema.Conforms (.obj members) ↔
      members.IsVersioned ∧ MessageKind.response.Shape members := by
  simp only [Response.schema, Schema.Conforms, Fields.Conforms, Slot.Conforms, Json.obj.injEq,
    exists_eq_left', and_true]
  exact and_congr_right fun _ =>
    ⟨fun h => ⟨h.1, fun v hv => ResponseError.conforms_iff.mp (h.2.1 v hv), h.2.2.1, h.2.2.2⟩,
      fun h => ⟨h.id, fun v hv => ResponseError.conforms_iff.mpr (h.error v hv), h.result, h.notBoth⟩⟩

/-! ### Which form is at fault -/

variable {fault : Fault}

/-- The interfaces that the forms of messages are made of. -/
def Message.forms : List String :=
  ["RequestMessage", "NotificationMessage", "ResponseMessage", "RequestId", "ResponseError"]

/-- If the version is the supported one, the fault of a message is a fault of its other fields. -/
theorem Message.mem_faults_of_versioned {name : String} {fields : Fields} (hv : members.IsVersioned)
    (h : (Schema.record name (.version fields)).fault? (.obj members) = some fault) :
    ∃ late, (late, fault) ∈ fields.faults name members := by
  obtain ⟨late, hf⟩ := mem_of_earliest h
  have hnone : versionFault? members = none := versionFault?_eq_none_iff.mpr hv
  rw [Fields.faults, hnone, Option.map_none, Option.toList_none, List.nil_append] at hf
  exact ⟨late, hf⟩

theorem Message.form_of_fault {names : List String} {name : String} {fields : Fields}
    (hv : members.IsVersioned) (hnames : ∀ i ∈ fields.blamed name, ∃ n ∈ names, i = some n)
    (h : (Schema.record name (.version fields)).fault? (.obj members) = some fault) :
    ∃ n ∈ names, ∃ reason, fault = .invalid n reason := by
  obtain ⟨late, hf⟩ := mem_faults_of_versioned hv h
  obtain ⟨n, hn, hi⟩ := hnames _ (fields.interface?_of_mem_faults members late fault hf)
  exact ⟨n, hn, Fault.eq_invalid_of_interface? hi⟩

/-- A form that is not the form of notifications is at fault, so it is not an id of theirs. -/
theorem Message.form_of_others {names : List String} (hforms : names ⊆ forms)
    (hothers : "NotificationMessage" ∉ names)
    (h : ∃ n ∈ names, ∃ reason, fault = .invalid n reason) :
    (∃ n ∈ forms, ∃ reason, fault = .invalid n reason) ∧
      fault ≠ .invalid "NotificationMessage" (.unexpected "id") := by
  obtain ⟨n, hn, reason, rfl⟩ := h
  refine ⟨⟨n, hforms hn, reason, rfl⟩, fun he => ?_⟩
  cases he
  exact hothers hn

/-- A value without an id is not refused as a notification for having one. -/
theorem Notification.fault?_ne_unexpected (hv : members.IsVersioned) (hid : members.get? "id" = none)
    (h : Notification.schema.fault? (.obj members) = some fault) :
    fault ≠ .invalid "NotificationMessage" (.unexpected "id") := by
  rintro rfl
  obtain ⟨late, hf⟩ := Message.mem_faults_of_versioned hv h
  rcases Fields.mem_faults_plain hf with he | he | hf
  · cases he
  · cases he
  rcases Fields.mem_faults_plain hf with he | he | hf
  · cases he
  · cases he
  · have hhas : members.has "id" = false := congrArg Option.isSome hid
    rw [Fields.faults, hhas] at hf
    cases hf

/-! ### Reading a message -/

namespace Message

open Content

variable {fault : Fault}

theorem map_eq_ok_iff {α β : Type} {f : α → β} {e : Except Fault α} {y : β} :
    e.map f = .ok y ↔ ∃ x, e = .ok x ∧ f x = y := by
  cases e <;> simp [Except.map]

theorem ofJson_of_kind (h : ∀ members, v ≠ .obj members) :
    ofJson v = .error (.invalid "Message" (.wrongType ["object"])) := by
  cases v with
  | obj members => exact absurd rfl (h members)
  | _ => rfl

theorem ofJson_of_version (h : ¬ members.IsVersioned) :
    ∃ found, ofJson (.obj members) = .error (.unsupportedVersion found) := by
  cases hf : versionFault? members with
  | none => exact absurd (versionFault?_eq_none_iff.mp hf) h
  | some fault =>
    obtain ⟨found, rfl⟩ := exists_of_versionFault? hf
    exact ⟨found, by rw [ofJson, hf]⟩

theorem classify_obj :
    classify (.obj members) =
      match (members.get? "id").isSome, (members.get? "method").isSome with
      | true, true => .request
      | true, false => .response
      | false, true => .notification
      | false, false => .unknown := rfl

theorem ofJson_of_versioned (h : members.IsVersioned) :
    ofJson (.obj members) =
      match classify (.obj members) with
      | .request => (read Request (.obj members)).map request
      | .notification => (read Notification (.obj members)).map notification
      | .response => (read Response (.obj members)).map response
      | .unknown => .error .unknownPayload := by
  have hf : versionFault? members = none := versionFault?_eq_none_iff.mpr h
  cases hc : classify (.obj members) <;> simp [ofJson, hf, hc]

/-- A value that was read as a message shows the kind of the message and was read as its form. -/
theorem ofJson_inv {m : Message} (h : ofJson v = .ok m) :
    ∃ members : Json.Members, v = .obj members ∧ members.IsVersioned ∧
      match m with
      | .request r => classify v = .request ∧ read Request v = .ok r
      | .notification n => classify v = .notification ∧ read Notification v = .ok n
      | .response r => classify v = .response ∧ read Response v = .ok r := by
  by_cases ho : ∀ members, v ≠ .obj members
  · cases (ofJson_of_kind ho).symm.trans h
  · obtain ⟨members, ho⟩ := Classical.not_forall.mp ho
    obtain rfl := Classical.not_not.mp ho
    by_cases hv : Json.Members.IsVersioned members
    · refine ⟨members, rfl, hv, ?_⟩
      rw [ofJson_of_versioned hv] at h
      split at h
      · rename_i hc
        obtain ⟨r, hr, rfl⟩ := map_eq_ok_iff.mp h
        exact ⟨hc, hr⟩
      · rename_i hc
        obtain ⟨n, hn, rfl⟩ := map_eq_ok_iff.mp h
        exact ⟨hc, hn⟩
      · rename_i hc
        obtain ⟨r, hr, rfl⟩ := map_eq_ok_iff.mp h
        exact ⟨hc, hr⟩
      · cases h
    · obtain ⟨found, hf⟩ := ofJson_of_version hv
      cases hf.symm.trans h

/-- What is told of a value that shows a kind by its keys: it is read just when it has the shape of the
    kind, it is of that kind then, and otherwise a form of a message is at fault, and never the form of
    notifications for an id. -/
def Reads (members : Json.Members) (kind : MessageKind) (outcome : Except Fault Message) : Prop :=
  ((∃ m, outcome = .ok m) ↔ kind.Shape members) ∧
  (∀ m, outcome = .ok m → m.kind = kind) ∧
  ∀ fault, outcome = .error fault →
    (∃ name ∈ forms, ∃ reason, fault = .invalid name reason) ∧
      fault ≠ .invalid "NotificationMessage" (.unexpected "id")

theorem reads_of_content {α : Type} [Content α] {make : α → Message} {kind : MessageKind}
    (hkind : ∀ x, (make x).kind = kind)
    (hshape : (schema α).Conforms (.obj members) ↔ kind.Shape members)
    (hfault : ∀ fault, (schema α).fault? (.obj members) = some fault →
      (∃ name ∈ forms, ∃ reason, fault = .invalid name reason) ∧
        fault ≠ .invalid "NotificationMessage" (.unexpected "id")) :
    Reads members kind ((read α (.obj members)).map make) := by
  refine ⟨?_, fun m hm => ?_, fun fault hf => ?_⟩
  · rw [← hshape, ← exists_read_iff (α := α)]
    simp only [map_eq_ok_iff]
    exact ⟨fun ⟨_, x, hx, _⟩ => ⟨x, hx⟩, fun ⟨x, hx⟩ => ⟨make x, x, hx, rfl⟩⟩
  · obtain ⟨x, -, rfl⟩ := map_eq_ok_iff.mp hm
    exact hkind x
  · cases hr : read α (.obj members) with
    | error other =>
      rw [hr] at hf
      cases hf
      exact hfault fault (read_eq_error_iff.mp hr)
    | ok x =>
      rw [hr] at hf
      cases hf

theorem reads_of_request (hv : members.IsVersioned) :
    Reads members .request ((read Request (.obj members)).map request) := by
  refine reads_of_content (fun _ => rfl) ?_ fun fault hf => ?_
  · exact Request.conforms_iff.trans (and_iff_right hv)
  · have hform : ∃ n ∈ ["RequestMessage", "RequestId"], ∃ reason, fault = .invalid n reason :=
      form_of_fault hv (by decide) hf
    exact form_of_others (by decide) (by decide) hform

theorem reads_of_notification (hv : members.IsVersioned) (hid : members.get? "id" = none) :
    Reads members .notification ((read Notification (.obj members)).map notification) := by
  refine reads_of_content (fun _ => rfl) ?_ fun fault hf => ⟨?_, ?_⟩
  · exact Notification.conforms_iff.trans ((and_iff_right hv).trans (and_iff_left hid))
  · exact form_of_fault hv (by decide) hf
  · exact Notification.fault?_ne_unexpected hv hid hf

theorem reads_of_response (hv : members.IsVersioned) :
    Reads members .response ((read Response (.obj members)).map response) := by
  refine reads_of_content (fun _ => rfl) ?_ fun fault hf => ?_
  · exact Response.conforms_iff.trans (and_iff_right hv)
  · have hform : ∃ n ∈ ["ResponseMessage", "RequestId", "ResponseError"], ∃ reason, fault = .invalid n reason :=
      form_of_fault hv (by decide) hf
    exact form_of_others (by decide) (by decide) hform

/-- Of every value. One that is no object is refused as a message, an object of another version for its
    version whatever else it has, and an object with neither an id nor a method as unknown. Any other is
    read just when it has the shape of the kind that its keys show. -/
theorem ofJson_grammar (v : Json) :
    ((∀ members, v ≠ .obj members) → ofJson v = .error (.invalid "Message" (.wrongType ["object"]))) ∧
    ∀ members : Json.Members, v = .obj members →
      (¬ members.IsVersioned → ∃ found, ofJson v = .error (.unsupportedVersion found)) ∧
      (members.IsVersioned → members.get? "id" = none ∧ members.get? "method" = none →
        ofJson v = .error .unknownPayload) ∧
      (members.IsVersioned → ¬ (members.get? "id" = none ∧ members.get? "method" = none) →
        Reads members (classify v) (ofJson v)) := by
  refine ⟨ofJson_of_kind, ?_⟩
  rintro members rfl
  refine ⟨ofJson_of_version, fun hv hkeys => ?_, fun hv hkeys => ?_⟩
  · rw [ofJson_of_versioned hv, classify_obj, hkeys.1, hkeys.2]
    rfl
  · rw [ofJson_of_versioned hv]
    cases hid : members.get? "id" with
    | none =>
      obtain ⟨method, hm⟩ := Option.ne_none_iff_exists'.mp fun h => hkeys ⟨hid, h⟩
      have hc : classify (.obj members) = .notification := by
        rw [classify_obj, hid, hm]
        rfl
      rw [hc]
      exact reads_of_notification hv hid
    | some id =>
      cases hm : members.get? "method" with
      | none =>
        have hc : classify (.obj members) = .response := by
          rw [classify_obj, hid, hm]
          rfl
        rw [hc]
        exact reads_of_response hv
      | some method =>
        have hc : classify (.obj members) = .request := by
          rw [classify_obj, hid, hm]
          rfl
        rw [hc]
        exact reads_of_request hv

end Message

end LanguageServer
