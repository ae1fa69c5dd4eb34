import LanguageServer.Schema

/-! Which interface a fault names. The check of a schema blames an interface that the schema is made of, the
    record itself or one nested in it at some depth, and a fault that names none is a fault of the version,
    which only a schema with a version can have (`Schema.interface?_of_fault?`). -/

namespace LanguageServer

mutual

/-- The interfaces that a fault of the schema may name; `none` if the fault may be one of the version. -/
def Schema.blamed : Schema → List (Option String)
  | .any => []
  | .text => [some "string"]
  | .enumeration name _ => [some name]
  | .requestId => [some "RequestId"]
  | .record name fields => some name :: fields.blamed name
  | .union name _ first _ second => some name :: (first.blamed ++ second.blamed)
  | .list name item => some (name.getD item.name) :: item.blamed
  | .oneOrMany item => item.blamed
  | .anyNumber name item => some name :: item.blamed
  | .nullable item => item.blamed

/-- The interfaces that a fault of the slot of a record may name. -/
def Slot.blamed (owner : String) : Slot → List (Option String)
  | .plain _ => [some owner]
  | .free => []
  | .nested schema => schema.blamed
  | .many item => some owner :: item.blamed
  | .table item => some owner :: item.blamed

/-- The interfaces that a fault of the fields of a record may name. -/
def Fields.blamed (owner : String) : Fields → List (Option String)
  | .nil => []
  | .cons _ _ _ slot rest => some owner :: (slot.blamed owner ++ rest.blamed owner)
  | .version rest => none :: rest.blamed owner
  | .outcome _ _ form rest => some owner :: (form.blamed ++ rest.blamed owner)
  | .without _ rest => some owner :: rest.blamed owner

end

variable {faults : List (Bool × Fault)} {members : Json.Members} {fault : Fault} {owner : String}

theorem mem_of_earliest (h : earliest faults = some fault) : ∃ late, (late, fault) ∈ faults := by
  unfold earliest at h
  split at h
  · rename_i f hf
    cases h
    exact ⟨f.1, List.mem_of_find?_eq_some hf⟩
  · obtain ⟨f, hf, rfl⟩ := Option.map_eq_some_iff.mp h
    exact ⟨f.1, List.mem_of_mem_head? hf⟩

theorem exists_of_versionFault? (h : versionFault? members = some fault) :
    ∃ found, fault = .unsupportedVersion found := by
  unfold versionFault? at h
  split at h
  · split at h
    · cases h
    · cases h
      exact ⟨_, rfl⟩
  · cases h
    exact ⟨_, rfl⟩
  · cases h
    exact ⟨_, rfl⟩

theorem Fault.eq_invalid_of_interface? {name : String} (h : fault.interface? = some name) :
    ∃ reason, fault = .invalid name reason := by
  cases fault with
  | invalid interface reason =>
    cases h
    exact ⟨reason, rfl⟩
  | _ => cases h

/-- A fault of a plain field names the key of the field. -/
theorem Fields.mem_faults_plain {owner key : String} {late late' : Bool} {presence : Presence}
    {kind : PropertyKind} {rest : Fields}
    (h : (late', fault) ∈ (cons key late presence (.plain kind) rest).faults owner members) :
    fault = .invalid owner (.missing key) ∨ fault = .invalid owner (.wrongProperty key [kind.text]) ∨
      (late', fault) ∈ rest.faults owner members := by
  rw [faults, List.mem_append] at h
  rcases h with h | h
  · split at h
    · obtain ⟨f, hf, he⟩ := Option.map_eq_some_iff.mp (Option.mem_toList.mp h)
      cases he
      rw [Slot.fault?] at hf
      split at hf
      · cases hf
      · cases hf
        exact Or.inr (Or.inl rfl)
    · split at h
      · cases List.mem_singleton.mp h
        exact Or.inl rfl
      · cases h
  · exact Or.inr (Or.inr h)

mutual

/-- A fault of a schema names an interface that the schema is made of. -/
theorem Schema.interface?_of_fault? :
    (s : Schema) → ∀ v fault, s.fault? v = some fault → fault.interface? ∈ s.blamed
  | .any, _, _, h => nomatch h
  | .text, v, fault, h => by
    cases v <;> cases h <;> exact List.mem_singleton_self _
  | .enumeration name values, v, fault, h => by
    rw [Schema.fault?] at h
    split at h
    · split at h
      · cases h
      · cases h
        exact List.mem_singleton_self _
    · cases h
      exact List.mem_singleton_self _
  | .requestId, v, fault, h => by
    rw [Schema.fault?] at h
    split at h
    · cases h
    · cases h
      exact List.mem_singleton_self _
  | .record name fields, v, fault, h => by
    cases v with
    | obj members =>
      obtain ⟨late, hf⟩ := mem_of_earliest h
      exact List.mem_cons_of_mem _ (fields.interface?_of_mem_faults members late fault hf)
    | _ =>
      cases h
      exact List.mem_cons_self
  | .union name firstKind first secondKind second, v, fault, h => by
    rw [Schema.fault?] at h
    split at h
    · exact List.mem_cons_of_mem _ (List.mem_append_left _ (first.interface?_of_fault? v fault h))
    · split at h
      · exact List.mem_cons_of_mem _ (List.mem_append_right _ (second.interface?_of_fault? v fault h))
      · cases h
        exact List.mem_cons_self
  | .list name item, v, fault, h => by
    cases v with
    | arr items =>
      obtain ⟨x, -, hx⟩ := List.exists_of_findSome?_eq_some h
      exact List.mem_cons_of_mem _ (item.interface?_of_fault? x fault hx)
    | _ =>
      cases h
      exact List.mem_cons_self
  | .oneOrMany item, v, fault, h => by
    cases v with
    | arr items =>
      obtain ⟨x, -, hx⟩ := List.exists_of_findSome?_eq_some h
      exact item.interface?_of_fault? x fault hx
    | _ => exact item.interface?_of_fault? _ fault h
  | .anyNumber name item, v, fault, h => by
    cases v with
    | null => cases h
    | arr items =>
      obtain ⟨x, -, hx⟩ := List.exists_of_findSome?_eq_some h
      exact List.mem_cons_of_mem _ (item.interface?_of_fault? x fault hx)
    | obj members => exact List.mem_cons_of_mem _ (item.interface?_of_fault? _ fault h)
    | _ =>
      cases h
      exact List.mem_cons_self
  | .nullable item, v, fault, h => by
    cases v with
    | null => cases h
    | _ => exact item.interface?_of_fault? _ fault h

/-- A fault of a slot names the record or an interface in the slot. -/
theorem Slot.interface?_of_fault? {owner key : String} :
    (s : Slot) → ∀ v late fault, s.fault? owner key v = some (late, fault) →
      fault.interface? ∈ s.blamed owner
  | .plain kind, v, late, fault, h => by
    rw [Slot.fault?] at h
    split at h
    · cases h
    · cases h
      exact List.mem_singleton_self _
  | .free, _, _, _, h => nomatch h
  | .nested schema, v, late, fault, h => by
    obtain ⟨f, hf, he⟩ := Option.map_eq_some_iff.mp h
    cases he
    exact schema.interface?_of_fault? v fault hf
  | .many item, v, late, fault, h => by
    cases v with
    | arr items =>
      obtain ⟨f, hf, he⟩ := Option.map_eq_some_iff.mp h
      cases he
      obtain ⟨x, -, hx⟩ := List.exists_of_findSome?_eq_some hf
      exact List.mem_cons_of_mem _ (item.interface?_of_fault? x fault hx)
    | _ =>
      cases h
      exact List.mem_cons_self
  | .table item, v, late, fault, h => by
    cases v with
    | obj members =>
      obtain ⟨f, hf, he⟩ := Option.map_eq_some_iff.mp h
      cases he
      obtain ⟨m, -, hm⟩ := List.exists_of_findSome?_eq_some hf
      split at hm
      · split at hm
        · obtain ⟨x, -, hx⟩ := List.exists_of_findSome?_eq_some hm
          exact List.mem_cons_of_mem _ (item.interface?_of_fault? x fault hx)
        · cases hm
          exact List.mem_cons_self
      · cases hm
        exact List.mem_cons_self
    | _ =>
      cases h
      exact List.mem_cons_self

/-- A fault of the fields names the record or an interface in a field. -/
theorem Fields.interface?_of_mem_faults {owner : String} :
    (fs : Fields) → ∀ members late fault, (late, fault) ∈ fs.faults owner members →
      fault.interface? ∈ fs.blamed owner
  | .nil, _, _, _, h => nomatch h
  | .cons key late' presence slot rest, members, late, fault, h => by
    rw [Fields.faults, List.mem_append] at h
    rcases h with h | h
    · split at h
      · rename_i v hv
        obtain ⟨f, hf, he⟩ := Option.map_eq_some_iff.mp (Option.mem_toList.mp h)
        cases he
        exact List.mem_cons_of_mem _ (List.mem_append_left _ (slot.interface?_of_fault? v f.1 f.2 hf))
      · split at h
        · cases List.mem_singleton.mp h
          exact List.mem_cons_self
        · cases h
    · exact List.mem_cons_of_mem _
        (List.mem_append_right _ (rest.interface?_of_mem_faults members late fault h))
  | .version rest, members, late, fault, h => by
    rw [Fields.faults, List.mem_append] at h
    rcases h with h | h
    · obtain ⟨f, hf, he⟩ := Option.map_eq_some_iff.mp (Option.mem_toList.mp h)
      cases he
      obtain ⟨found, rfl⟩ := exists_of_versionFault? hf
      exact List.mem_cons_self
    · exact List.mem_cons_of_mem _ (rest.interface?_of_mem_faults members late fault h)
  | .outcome result error form rest, members, late, fault, h => by
    rw [Fields.faults, List.mem_append, List.mem_append, List.mem_append] at h
    rcases h with ((h | h) | h) | h
    · obtain ⟨f, hf, he⟩ := Option.map_eq_some_iff.mp (Option.mem_toList.mp h)
      cases he
      obtain ⟨v, -, hv⟩ := Option.bind_eq_some_iff.mp hf
      exact List.mem_cons_of_mem _ (List.mem_append_left _ (form.interface?_of_fault? v fault hv))
    · split at h
      · cases h
      · cases h
      · cases h
      · cases h
      · cases List.mem_singleton.mp h
        exact List.mem_cons_self
    · split at h
      · cases List.mem_singleton.mp h
        exact List.mem_cons_self
      · cases h
    · exact List.mem_cons_of_mem _
        (List.mem_append_right _ (rest.interface?_of_mem_faults members late fault h))
  | .without key rest, members, late, fault, h => by
    rw [Fields.faults, List.mem_append] at h
    rcases h with h | h
    · split at h
      · cases List.mem_singleton.mp h
        exact List.mem_cons_self
      · cases h
    · exact List.mem_cons_of_mem _ (rest.interface?_of_mem_faults members late fault h)

end

end LanguageServer
