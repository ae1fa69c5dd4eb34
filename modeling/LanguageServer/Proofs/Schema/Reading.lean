import LanguageServer.Proofs.Schema.Conformance

/-! Reading a value after it was held against its schema. A value that conforms can be read, so reading
    fails only with the fault that the check tells, and it succeeds on the values that conform and on no
    others (`Content.read_conforms`). -/

namespace LanguageServer

/-! ### A value that conforms can be read -/

theorem Slot.conforms_null_of_suits {slot : Slot} (h : Presence.nullIfAbsent.suits slot = true) :
    slot.Conforms .null := by
  cases slot with
  | plain kind => exact (kind.accepts_iff .null).mp h
  | _ => cases h

theorem Schema.exists_decode?_enumeration {name : String} {values : List (String × Int)}
    (wf : (Schema.enumeration name values).isWellFormed = true) {n : Int} (h : n ∈ values.map (·.2)) :
    ∃ i, (Schema.enumeration name values).decode? (.int n) = some i := by
  obtain ⟨x, hx, he⟩ := List.mem_map.mp h
  have hfind : (values.findFinIdx? fun y => decide (y.2 = n)).isSome = true := by
    rw [List.isSome_findFinIdx?]
    exact List.any_eq_true.mpr ⟨x, hx, decide_eq_true he⟩
  obtain ⟨i, hi⟩ := Option.isSome_iff_exists.mp hfind
  exact ⟨i, Option.bind_eq_some_iff.mpr ⟨n, signed?_of_listed wf h, hi⟩⟩

mutual

/-- A value that conforms to a schema can be read. -/
theorem Schema.exists_decode?_of_conforms :
    (s : Schema) → s.isWellFormed = true → ∀ v, s.Conforms v → ∃ x, s.decode? v = some x
  | .any, _, v, _ => ⟨v, rfl⟩
  | .text, _, _, ⟨s, rfl⟩ => ⟨s, rfl⟩
  | .enumeration _ _, wf, _, ⟨_, rfl, hn⟩ => Schema.exists_decode?_enumeration wf hn
  | .requestId, _, v, h => Option.isSome_iff_exists.mp (Json.ofJson?_isSome_iff.mpr h)
  | .record _ fields, wf, _, ⟨members, rfl, h⟩ => by
    simp only [Schema.isWellFormed, Bool.and_eq_true] at wf
    exact fields.exists_decode?_of_conforms wf.2 members h
  | .union name firstKind first secondKind second, wf, v, h => by
    simp only [Schema.isWellFormed, Bool.and_eq_true, decide_eq_true_eq] at wf
    obtain ⟨⟨⟨hk₁, hk₂, hne⟩, wf₁⟩, wf₂⟩ := wf
    rw [Schema.decode?]
    rcases h with h | h
    · have hv := Schema.kind_of_conforms hk₁ h
      obtain ⟨x, hx⟩ := first.exists_decode?_of_conforms wf₁ v h
      rw [if_pos hv, hx]
      exact ⟨_, rfl⟩
    · have hv := Schema.kind_of_conforms hk₂ h
      obtain ⟨x, hx⟩ := second.exists_decode?_of_conforms wf₂ v h
      rw [if_neg (hv ▸ hne.symm), if_pos hv, hx]
      exact ⟨_, rfl⟩
  | .list _ item, wf, _, ⟨items, rfl, h⟩ =>
    Many.exists_mapM fun x hx => item.exists_decode?_of_conforms wf x (h x hx)
  | .oneOrMany item, wf, v, h => by
    simp only [Schema.isWellFormed, Bool.and_eq_true, Bool.not_eq_true'] at wf
    rcases h with h | ⟨items, rfl, h⟩
    · obtain ⟨x, hx⟩ := item.exists_decode?_of_conforms wf.2 v h
      cases v with
      | arr items => exact absurd h (Schema.not_conforms_arr wf.1)
      | _ => exact ⟨[x], Option.map_eq_some_iff.mpr ⟨x, hx, rfl⟩⟩
    · exact Many.exists_mapM fun x hx => item.exists_decode?_of_conforms wf.2 x (h x hx)
  | .anyNumber name item, wf, v, h => by
    simp only [Schema.isWellFormed, Bool.and_eq_true, decide_eq_true_eq] at wf
    rcases h with rfl | h | ⟨items, rfl, h⟩
    · exact ⟨[], rfl⟩
    · have hk := Schema.kind_of_conforms wf.1 h
      obtain ⟨x, hx⟩ := item.exists_decode?_of_conforms wf.2 v h
      cases v with
      | obj members => exact ⟨[x], Option.map_eq_some_iff.mpr ⟨x, hx, rfl⟩⟩
      | _ => cases hk
    · exact Many.exists_mapM fun x hx => item.exists_decode?_of_conforms wf.2 x (h x hx)
  | .nullable item, wf, v, h => by
    rcases h with rfl | h
    · exact ⟨none, rfl⟩
    · obtain ⟨x, hx⟩ := item.exists_decode?_of_conforms wf v h
      cases v with
      | null => exact ⟨none, rfl⟩
      | _ => exact ⟨some x, Option.map_eq_some_iff.mpr ⟨x, hx, rfl⟩⟩

/-- A value that conforms to a slot can be read. -/
theorem Slot.exists_decode?_of_conforms :
    (s : Slot) → s.isWellFormed = true → ∀ v, s.Conforms v → ∃ x, s.decode? v = some x
  | .plain _, _, _, h => PropertyKind.exists_decode?_of_conforms h
  | .free, _, v, _ => ⟨v, rfl⟩
  | .nested schema, wf, v, h => schema.exists_decode?_of_conforms wf v h
  | .many item, wf, _, ⟨items, rfl, h⟩ =>
    Many.exists_mapM fun x hx => item.exists_decode?_of_conforms wf x (h x hx)
  | .table item, wf, _, ⟨members, rfl, h⟩ => by
    refine Many.exists_mapM fun m hm => ?_
    obtain ⟨-, items, hi, h⟩ := h m hm
    obtain ⟨xs, hxs⟩ := Many.exists_mapM fun x hx => item.exists_decode?_of_conforms wf x (h x hx)
    rw [hi]
    exact ⟨(m.1, xs), Option.map_eq_some_iff.mpr ⟨xs, hxs, rfl⟩⟩

/-- Members that conform to the fields can be read. -/
theorem Fields.exists_decode?_of_conforms :
    (fs : Fields) → fs.isWellFormed = true → ∀ members, fs.Conforms members →
      ∃ x, fs.decode? members = some x
  | .nil, _, _, _ => ⟨(), rfl⟩
  | .cons key late .required slot rest, wf, members, ⟨⟨v, hv, h⟩, hr⟩ => by
    simp only [Fields.isWellFormed, Bool.and_eq_true] at wf
    obtain ⟨x, hx⟩ := slot.exists_decode?_of_conforms wf.1.2 v h
    obtain ⟨y, hy⟩ := rest.exists_decode?_of_conforms wf.2 members hr
    exact ⟨(x, y), by simp [Fields.decode?, hv, hx, hy]⟩
  | .cons key late .optional slot rest, wf, members, ⟨h, hr⟩ => by
    simp only [Fields.isWellFormed, Bool.and_eq_true] at wf
    obtain ⟨y, hy⟩ := rest.exists_decode?_of_conforms wf.2 members hr
    cases hv : members.get? key with
    | none => exact ⟨(none, y), by simp [Fields.decode?, hv, hy]⟩
    | some v =>
      obtain ⟨x, hx⟩ := slot.exists_decode?_of_conforms wf.1.2 v
        ((Slot.conforms_iff_of_suits wf.1.1).mpr (h v hv))
      cases hn : slot.dropsNull v with
      | true => exact ⟨(none, y), by simp [Fields.decode?, hv, hn, hy]⟩
      | false => exact ⟨(some x, y), by simp [Fields.decode?, hv, hn, hx, hy]⟩
  | .cons key late .nullIfAbsent slot rest, wf, members, ⟨h, hr⟩ => by
    simp only [Fields.isWellFormed, Bool.and_eq_true] at wf
    have hv : slot.Conforms ((members.get? key).getD .null) := by
      cases hv : members.get? key with
      | none => exact Slot.conforms_null_of_suits wf.1.1
      | some v => exact h v hv
    obtain ⟨x, hx⟩ := slot.exists_decode?_of_conforms wf.1.2 _ hv
    obtain ⟨y, hy⟩ := rest.exists_decode?_of_conforms wf.2 members hr
    exact ⟨(x, y), by simp [Fields.decode?, hx, hy]⟩
  | .version rest, wf, members, ⟨_, hr⟩ => rest.exists_decode?_of_conforms wf members hr
  | .outcome result error form rest, wf, members, ⟨he, _, _, hr⟩ => by
    simp only [Fields.isWellFormed, Bool.and_eq_true] at wf
    obtain ⟨y, hy⟩ := rest.exists_decode?_of_conforms wf.2 members hr
    cases hv : members.get? result with
    | some v => exact ⟨(some (.inl v), y), by simp [Fields.decode?, hv, hy]⟩
    | none =>
      cases hw : members.get? error with
      | none => exact ⟨(none, y), by simp [Fields.decode?, hv, hw, hy]⟩
      | some e =>
        obtain ⟨x, hx⟩ := form.exists_decode?_of_conforms wf.1 e (he e hw)
        exact ⟨(some (.inr x), y), by simp [Fields.decode?, hv, hw, hx, hy]⟩
  | .without _ rest, wf, members, ⟨_, hr⟩ => rest.exists_decode?_of_conforms wf members hr

end

/-! ### What reading gives -/

namespace Content

variable {α : Type} [Content α] {v : Json} {x : α}

theorem fault?_eq_none_iff : fault? α v = none ↔ (schema α).Conforms v :=
  (schema α).fault?_eq_none_iff wellFormed v

theorem read_eq_error_of_fault? {fault : Fault} (h : fault? α v = some fault) :
    read α v = .error fault := by
  have h : (schema α).fault? v = some fault := h
  simp [read, Schema.read, h, Except.map]

/-- Reading gives what the value decodes to, if it conforms. -/
theorem read_eq_ok_iff :
    read α v = .ok x ↔ (schema α).Conforms v ∧ (schema α).decode? v = some (pack x) := by
  rw [← fault?_eq_none_iff]
  cases h : fault? α v with
  | some fault => simp [read_eq_error_of_fault? h]
  | none =>
    obtain ⟨y, hy⟩ := (schema α).exists_decode?_of_conforms wellFormed v (fault?_eq_none_iff.mp h)
    have h : (schema α).fault? v = none := h
    simp only [read, Schema.read, h, hy, Except.map, Except.ok.injEq, Option.some.injEq, true_and]
    constructor
    · rintro rfl
      rw [pack_unpack]
    · rintro rfl
      rw [unpack_pack]

theorem exists_read_iff : (∃ x, read α v = .ok x) ↔ (schema α).Conforms v := by
  constructor
  · rintro ⟨x, hx⟩
    exact (read_eq_ok_iff.mp hx).1
  · intro h
    obtain ⟨y, hy⟩ := (schema α).exists_decode?_of_conforms wellFormed v h
    exact ⟨unpack y, read_eq_ok_iff.mpr ⟨h, by rw [pack_unpack, hy]⟩⟩

theorem fault?_isNone_iff : (fault? α v).isNone = true ↔ ∃ x, read α v = .ok x := by
  rw [Option.isNone_iff_eq_none, fault?_eq_none_iff, exists_read_iff]

theorem read_eq_error_iff {fault : Fault} : read α v = .error fault ↔ fault? α v = some fault := by
  constructor
  · intro h
    cases hf : fault? α v with
    | some other =>
      cases (read_eq_error_of_fault? hf).symm.trans h
      rfl
    | none =>
      obtain ⟨x, hx⟩ := exists_read_iff.mpr (fault?_eq_none_iff.mp hf)
      cases hx.symm.trans h
  · exact read_eq_error_of_fault?

/-- Of every interface and every value: reading succeeds just when the check finds nothing, reading fails
    with the fault that the check tells, and the check finds nothing just when the value has the form that
    the interface declares. -/
theorem read_conforms (α : Type) [Content α] (v : Json) :
    ((∃ x, read α v = .ok x) ↔ fault? α v = none) ∧
    (∀ fault, read α v = .error fault ↔ fault? α v = some fault) ∧
    (fault? α v = none ↔ (schema α).Conforms v) :=
  ⟨exists_read_iff.trans fault?_eq_none_iff.symm, fun _ => read_eq_error_iff, fault?_eq_none_iff⟩

end Content

end LanguageServer
