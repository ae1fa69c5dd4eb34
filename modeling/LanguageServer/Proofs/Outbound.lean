import LanguageServer.Outbound
import LanguageServer.Proofs.Message.Writing

/-! What a server tells and asks is accepted. The operations by which a server tells and asks its client
    something. Each queues one message, with a method of its own and with what it is given as params, and
    leaves the other queues as they are. The message is read as itself where it arrives, for the params of
    all operations but one are interfaces that are objects. The data for statistics are free JSON: they are
    queued whatever they are, and accepted only if they are an object (`Outbound.perform_accepted`). -/

namespace LanguageServer

open Content

/-- An operation of a server on its outbox; `ρ` is what callbacks give. -/
inductive Outbound (ρ : Type) where
  | showMessage (params : ShowMessageParams)
  | logMessage (params : LogMessageParams)
  | telemetry (params : Json)
  | publishDiagnostics (params : PublishDiagnosticsParams)
  | cancelRequest (id : RequestId)
  | showMessageRequest (params : ShowMessageRequestParams)
    (f : Except ResponseError (Option MessageActionItem) → ρ)
  | registerCapability (params : RegistrationParams) (f : Except ResponseError Json → ρ)
  | unregisterCapability (params : UnregistrationParams) (f : Except ResponseError Json → ρ)
  | configuration (params : ConfigurationParams) (f : Except ResponseError (List Json) → ρ)
  | applyEdit (params : ApplyWorkspaceEditParams) (f : Except ResponseError ApplyWorkspaceEditResult → ρ)
  | workspaceFolders (f : Except ResponseError (Option (List WorkspaceFolder)) → ρ)

namespace Outbound

variable {ρ : Type}

/-- Performs an operation; a request tells its id. -/
def perform (o : Outbox ρ) : Outbound ρ → Option RequestId × Outbox ρ
  | showMessage params => (none, o.showMessage params)
  | logMessage params => (none, o.logMessage params)
  | telemetry params => (none, o.telemetry params)
  | publishDiagnostics params => (none, o.publishDiagnostics params)
  | cancelRequest id => (none, o.cancelRequest id)
  | showMessageRequest params f => (o.showMessageRequest params f).map some id
  | registerCapability params f => (o.registerCapability params f).map some id
  | unregisterCapability params f => (o.unregisterCapability params f).map some id
  | configuration params f => (o.configuration params f).map some id
  | applyEdit params f => (o.applyEdit params f).map some id
  | workspaceFolders f => (o.workspaceFolders f).map some id

/-- The method of the message. -/
def method : Outbound ρ → String
  | showMessage _ => "window/showMessage"
  | logMessage _ => "window/logMessage"
  | telemetry _ => "telemetry/event"
  | publishDiagnostics _ => "textDocument/publishDiagnostics"
  | cancelRequest _ => "$/cancelRequest"
  | showMessageRequest _ _ => "window/showMessageRequest"
  | registerCapability _ _ => "client/registerCapability"
  | unregisterCapability _ _ => "client/unregisterCapability"
  | configuration _ _ => "workspace/configuration"
  | applyEdit _ _ => "workspace/applyEdit"
  | workspaceFolders _ => "workspace/workspaceFolders"

/-- The params of the message. -/
def params? : Outbound ρ → Option Json
  | showMessage params => some (toJson params)
  | logMessage params => some (toJson params)
  | telemetry params => some (toJson params)
  | publishDiagnostics params => some (toJson params)
  | cancelRequest id => some (toJson ({ id } : CancelParams))
  | showMessageRequest params _ => some (toJson params)
  | registerCapability params _ => some (toJson params)
  | unregisterCapability params _ => some (toJson params)
  | configuration params _ => some (toJson params)
  | applyEdit params _ => some (toJson params)
  | workspaceFolders _ => none

/-- The callback that waits for the answer, if the message is a request. -/
def callback? : Outbound ρ → Option (Callback ρ)
  | showMessageRequest _ f => some (.typed _ f)
  | registerCapability _ f => some (.typed _ f)
  | unregisterCapability _ f => some (.typed _ f)
  | configuration _ f => some (.typed _ f)
  | applyEdit _ f => some (.typed _ f)
  | workspaceFolders f => some (.typed _ f)
  | _ => none

/-- The message that is queued. -/
def message (o : Outbox ρ) (op : Outbound ρ) : Message :=
  match op.callback? with
  | none => .notification { method := op.method, params := op.params? }
  | some _ => .request { id := o.nextId, method := op.method, params := op.params? }

/-- What is free JSON in the params is an object. -/
def HasObject (op : Outbound ρ) : Prop := ∀ v, op = .telemetry v → v.kind = .object

variable {op : Outbound ρ} {o : Outbox ρ}

theorem perform_eq : op.perform o =
    match op.callback? with
    | none => (none, o.pushNotification { method := op.method, params := op.params? })
    | some callback => (o.pushRequest op.method op.params? callback).map some id := by
  cases op <;> rfl

/-! ### Which params are objects -/

theorem kind_toJson {α : Type} [Content α] (h : (schema α).kinds = [.object]) (x : α) :
    (toJson x).kind = .object := by
  have hmem := kind_toJson_mem x
  rw [h] at hmem
  exact List.mem_singleton.mp hmem

theorem ordered_params {p : Json} (h : op.params? = some p) : p.Ordered := by
  cases op <;> cases h <;> exact Json.ordered_sorted _

theorem kind_params (hop : op.HasObject) {p : Json} (h : op.params? = some p) : p.kind = .object := by
  cases op with
  | telemetry v =>
    cases h
    exact Json.kind_sorted.trans (hop v rfl)
  | workspaceFolders f => cases h
  | _ =>
    cases h
    exact kind_toJson rfl _

theorem isReadable_message (hop : op.HasObject) : (op.message o).IsReadable := by
  have hparams : ∀ p, op.params? = some p → p.kind = .object ∧ p.Ordered := fun _ h =>
    ⟨kind_params hop h, ordered_params h⟩
  unfold message
  split
  · exact hparams
  · exact ⟨nofun, hparams⟩

/-! ### Data that are refused -/

/-- A notification whose params are no object is refused for its params. -/
theorem read_notification_of_params {members : Json.Members} {method : String} {p : Json}
    (hv : members.IsVersioned) (hm : members.get? "method" = some (.str method))
    (hp : members.get? "params" = some p) (hid : members.get? "id" = none) (hk : p.kind ≠ .object) :
    read Notification (.obj members) =
      .error (.invalid "NotificationMessage" (.wrongProperty "params" ["object"])) := by
  have hversion : versionFault? members = none := versionFault?_eq_none_iff.mpr hv
  have hhas : members.has "id" = false := congrArg Option.isSome hid
  have hmethod : (Slot.plain .string).fault? "NotificationMessage" "method" (.str method) = none := rfl
  have hparams : (Slot.plain .object).fault? "NotificationMessage" "params" p =
      some (false, .invalid "NotificationMessage" (.wrongProperty "params" ["object"])) := by
    cases p with
    | obj members => exact absurd rfl hk
    | _ => rfl
  refine read_eq_error_iff.mpr ?_
  show Notification.schema.fault? (.obj members) = _
  simp [Notification.schema, Schema.fault?, Fields.faults, hversion, hm, hmethod, hp, hparams, hhas,
    earliest]

theorem ofJson_telemetry {v : Json} (hk : v.kind ≠ .object) :
    Message.ofJson ((telemetry v).message o).toJson =
      .error (.invalid "NotificationMessage" (.wrongProperty "params" ["object"])) := by
  obtain ⟨members, hmembers, hv, hid, hmethod, hparams⟩ :=
    Message.members_notification { method := "telemetry/event", params := some (toJson v) }
  have hkind : (toJson v).sorted.kind ≠ .object := by
    rw [Json.kind_sorted, toJson, Json.kind_sorted]
    exact hk
  have hread := read_notification_of_params hv hmethod hparams hid hkind
  refine (congrArg Message.ofJson hmembers).trans ?_
  rw [Message.ofJson_of_versioned hv, Message.classify_obj, hid, hmethod]
  exact congrArg (Except.map Message.notification) hread

/-- Of every operation and every outbox. One message is queued, with the method of the operation and what it
    is given as params: a notification, or a request under the next id, whose callback waits under this id
    from then on. Nothing else is changed. The message is read as itself, unless free JSON that is no object
    is its params: then it is refused for them. -/
theorem perform_accepted (op : Outbound ρ) (o : Outbox ρ) :
    (match op.callback? with
      | none =>
        op.perform o =
          (none, { o with
            notifications := o.notifications ++ [{ method := op.method, params := op.params? }] })
      | some callback =>
        op.perform o =
          (some o.nextId, { o with
            requests := o.requests ++ [{ id := o.nextId, method := op.method, params := op.params? }]
            next := o.next + 1
            pending := o.pending.filter (fun w => w.1 ≠ o.nextId.text) ++ [(o.nextId.text, callback)] })) ∧
      (op.HasObject → Message.ofJson (op.message o).toJson = .ok (op.message o)) ∧
      (¬ op.HasObject →
        Message.ofJson (op.message o).toJson =
          .error (.invalid "NotificationMessage" (.wrongProperty "params" ["object"]))) := by
  refine ⟨?_, fun hop => Message.ofJson_of_readable (isReadable_message hop), fun hop => ?_⟩
  · rw [perform_eq]
    cases op.callback? <;> rfl
  · obtain ⟨v, hv⟩ := Classical.not_forall.mp hop
    obtain ⟨rfl, hk⟩ := Classical.not_imp.mp hv
    exact ofJson_telemetry hk

/-- A number for statistics is queued, and refused where it arrives. -/
theorem telemetry_number :
    let o : Outbox Empty := .empty
    let n : Notification := { method := "telemetry/event", params := some (.int 5) }
    (telemetry (.int 5)).perform o = (none, { o with notifications := [n] }) ∧
      (telemetry (.int 5)).message o = .notification n ∧
      ∀ m, Message.ofJson (Message.notification n).toJson ≠ .ok m := by
  intro o n
  refine ⟨rfl, rfl, fun m hm => ?_⟩
  have hrefused : Message.ofJson (Message.notification n).toJson = .error _ :=
    ofJson_telemetry (o := o) (v := .int 5) Json.Kind.noConfusion
  rw [hrefused] at hm
  cases hm

end Outbound

end LanguageServer
