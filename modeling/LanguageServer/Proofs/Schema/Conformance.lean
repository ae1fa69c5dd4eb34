import LanguageServer.Content
import LanguageServer.Proofs.PropertyKind

/-! Conformance. Which values have the form that a schema declares, said without any order of checks and
    without telling what is wrong. A record is an object that has every required field with a value that
    conforms, and lacks an optional field or has it with a value that conforms and is not null; keys that no
    field speaks of do not matter. The departures from this are rules of their own: free JSON may be null in
    an optional field, a field that is null when absent takes null, a message carries the version of the
    protocol and a response not both a result and an error, and some interfaces take an item in place of an
    array of items. The check of a schema finds nothing exactly when a value conforms
    (`Schema.fault?_eq_none_iff`). -/

namespace LanguageServer

mutual

/-- The value has the form that the schema declares. -/
def Schema.Conforms : Schema → Json → Prop
  | .any, _ => True
  | .text, v => v.IsText
  | .enumeration _ values, v => ∃ n, v = .int n ∧ n ∈ values.map (·.2)
  | .requestId, v => v.IsText ∨ v.IsWhole (-0x8000000000000000) 0x8000000000000000
  | .record _ fields, v => ∃ members, v = .obj members ∧ fields.Conforms members
  | .union _ _ first _ second, v => first.Conforms v ∨ second.Conforms v
  | .list _ item, v => v.IsArrayOf item.Conforms
  | .oneOrMany item, v => item.Conforms v ∨ v.IsArrayOf item.Conforms
  | .anyNumber _ item, v => v = .null ∨ item.Conforms v ∨ v.IsArrayOf item.Conforms
  | .nullable item, v => v = .null ∨ item.Conforms v

/-- The value is one that the slot holds. -/
def Slot.Conforms : Slot → Json → Prop
  | .plain kind, v => kind.Conforms v
  | .free, _ => True
  | .nested schema, v => schema.Conforms v
  | .many item, v => v.IsArrayOf item.Conforms
  | .table item, v =>
    ∃ members, v = .obj members ∧
      ∀ m ∈ members, (∃ u, Uri.parse m.1 = .ok u) ∧ m.2.IsArrayOf item.Conforms

/-- The members have the form that the fields declare. -/
def Fields.Conforms : Fields → Json.Members → Prop
  | .nil, _ => True
  | .cons key _ .required slot rest, members =>
    (∃ v, members.get? key = some v ∧ slot.Conforms v) ∧ rest.Conforms members
  | .cons key _ .optional slot rest, members =>
    (∀ v, members.get? key = some v → slot = .free ∨ v ≠ .null ∧ slot.Conforms v) ∧
      rest.Conforms members
  | .cons key _ .nullIfAbsent slot rest, members =>
    (∀ v, members.get? key = some v → slot.Conforms v) ∧ rest.Conforms members
  | .version rest, members =>
    members.get? versionKey = some (.str versionText) ∧ rest.Conforms members
  | .outcome result error form rest, members =>
    (∀ v, members.get? error = some v → form.Conforms v) ∧
      (∀ v, members.get? result = some v → v.kind = .object ∨ v.kind = .array ∨ v.kind = .null) ∧
      (members.get? result = none ∨ members.get? error = none) ∧ rest.Conforms members
  | .without key rest, members => members.get? key = none ∧ rest.Conforms members

end

/-! ### The JSON types of values that conform -/

theorem Schema.kind_mem_of_conforms : (s : Schema) → ∀ v, s.Conforms v → v.kind ∈ s.kinds
  | .any, v, _ => by cases v <;> simp [kinds, Json.kind]
  | .text, _, ⟨_, rfl⟩ => List.mem_singleton_self _
  | .enumeration _ _, _, ⟨_, rfl, _⟩ => List.mem_singleton_self _
  | .requestId, _, h => by
    rcases h with ⟨_, rfl⟩ | ⟨_, rfl, -⟩ <;> simp [kinds, Json.kind, Json.int]
  | .record _ _, _, ⟨_, rfl, _⟩ => List.mem_singleton_self _
  | .union _ _ first _ second, v, h => by
    rcases h with h | h
    · exact List.mem_append_left _ (first.kind_mem_of_conforms v h)
    · exact List.mem_append_right _ (second.kind_mem_of_conforms v h)
  | .list _ _, _, ⟨_, rfl, _⟩ => List.mem_singleton_self _
  | .oneOrMany item, v, h => by
    rcases h with h | ⟨_, rfl, -⟩
    · exact List.mem_cons_of_mem _ (item.kind_mem_of_conforms v h)
    · exact List.mem_cons_self
  | .anyNumber _ item, v, h => by
    rcases h with rfl | h | ⟨_, rfl, -⟩
    · exact List.mem_cons_self
    · exact List.mem_cons_of_mem _ (List.mem_cons_of_mem _ (item.kind_mem_of_conforms v h))
    · exact List.mem_cons_of_mem _ List.mem_cons_self
  | .nullable item, v, h => by
    rcases h with rfl | h
    · exact List.mem_cons_self
    · exact List.mem_cons_of_mem _ (item.kind_mem_of_conforms v h)

theorem Schema.kind_of_conforms {s : Schema} {kind : Json.Kind} {v : Json} (hk : s.kinds = [kind])
    (h : s.Conforms v) : v.kind = kind := by
  have hv := s.kind_mem_of_conforms v h
  rw [hk] at hv
  exact List.mem_singleton.mp hv

/-- No array conforms to an item that can be told from an array of items. -/
theorem Schema.not_conforms_arr {item : Schema} {items : List Json}
    (hk : item.kinds.contains .array = false) : ¬ item.Conforms (.arr items) := fun h =>
  Bool.false_ne_true (hk.symm.trans (List.contains_iff_mem.mpr (item.kind_mem_of_conforms _ h)))

theorem Slot.takesNull_of_conforms {slot : Slot} (h : slot.Conforms .null) : slot.takesNull = true := by
  cases slot with
  | plain kind => exact (kind.accepts_iff .null).mpr h
  | free => rfl
  | nested schema => exact List.contains_iff_mem.mpr (schema.kind_mem_of_conforms .null h)
  | many item =>
    obtain ⟨_, hv, -⟩ := h
    cases hv
  | table item =>
    obtain ⟨_, hv, -⟩ := h
    cases hv

/-- Null conforms to no slot of an optional field but a free one. -/
theorem Slot.conforms_iff_of_suits {slot : Slot} (h : Presence.optional.suits slot = true) {v : Json} :
    slot.Conforms v ↔ slot = .free ∨ v ≠ .null ∧ slot.Conforms v := by
  constructor
  · intro hv
    by_cases hf : slot = .free
    · exact Or.inl hf
    · refine Or.inr ⟨?_, hv⟩
      rintro rfl
      have hn := takesNull_of_conforms hv
      cases slot <;> simp_all [Presence.suits]
  · rintro (rfl | ⟨-, hv⟩)
    · exact trivial
    · exact hv

/-! ### The check finds nothing just when a value conforms -/

theorem earliest_eq_none_iff {faults : List (Bool × Fault)} : earliest faults = none ↔ faults = [] := by
  unfold earliest
  split
  · rename_i f hf
    simp [List.ne_nil_of_mem (List.mem_of_find?_eq_some hf)]
  · simp

theorem versionFault?_eq_none_iff {members : Json.Members} :
    versionFault? members = none ↔ members.get? versionKey = some (.str versionText) := by
  unfold versionFault?
  split
  · rename_i found hv
    rw [hv]
    split <;> simp_all
  · rename_i other hne hv
    rw [hv]
    simp only [reduceCtorEq, Option.some.injEq, false_iff]
    exact fun e => hne _ e
  · rename_i hv
    simp [hv]

theorem Json.ofJson?_isSome_iff {v : Json} :
    (RequestId.ofJson? v).isSome = true ↔ v.IsText ∨ v.IsWhole (-0x8000000000000000) 0x8000000000000000 := by
  cases v with
  | num n =>
    rw [RequestId.ofJson?, Option.isSome_map, Option.isSome_iff_exists, PropertyKind.exists_signed?_iff]
    simp [Json.IsText]
  | _ => simp [RequestId.ofJson?, Json.IsText, Json.IsWhole, Json.int]

theorem Json.isArrayOf_arr {P : Json → Prop} {items : List Json} :
    (Json.arr items).IsArrayOf P ↔ ∀ x ∈ items, P x := by
  simp [Json.IsArrayOf]

/-- A listed number is in the range of signed words, so it is read from a value. -/
theorem Schema.signed?_of_listed {name : String} {values : List (String × Int)}
    (wf : (Schema.enumeration name values).isWellFormed = true) {n : Int} (h : n ∈ values.map (·.2)) :
    (Json.int n).signed? = some n := by
  obtain ⟨x, hx, rfl⟩ := List.mem_map.mp h
  obtain ⟨i, hi⟩ := Option.isSome_iff_exists.mp (List.all_eq_true.mp wf x hx)
  obtain ⟨he, -, -⟩ := Json.Number.signed?_eq_some_iff.mp hi
  cases he
  exact hi

/-- The check of listed numbers finds nothing just when the value is one of them. -/
theorem Schema.fault?_enumeration {name : String} {values : List (String × Int)}
    (wf : (Schema.enumeration name values).isWellFormed = true) (v : Json) :
    (Schema.enumeration name values).fault? v = none ↔ (Schema.enumeration name values).Conforms v := by
  rw [fault?, Conforms]
  constructor
  · intro h
    split at h
    · rename_i n hn
      cases v <;> simp only [Json.signed?, reduceCtorEq] at hn
      rename_i m
      obtain ⟨rfl, -, -⟩ := Json.Number.signed?_eq_some_iff.mp hn
      split at h
      · rename_i hmem
        refine ⟨n, rfl, ?_⟩
        simpa using hmem
      · cases h
    · cases h
  · rintro ⟨n, rfl, hmem⟩
    obtain ⟨x, hx, he⟩ := List.mem_map.mp hmem
    have hany : (values.any fun y => decide (y.2 = n)) = true :=
      List.any_eq_true.mpr ⟨x, hx, decide_eq_true he⟩
    rw [signed?_of_listed wf hmem]
    exact if_pos hany

mutual

/-- The check of a schema finds nothing just when the value conforms. -/
theorem Schema.fault?_eq_none_iff :
    (s : Schema) → s.isWellFormed = true → ∀ v, s.fault? v = none ↔ s.Conforms v
  | .any, _, v => iff_of_true rfl trivial
  | .text, _, v => by cases v <;> simp [Schema.fault?, Schema.Conforms, Json.IsText]
  | .enumeration name values, wf, v => Schema.fault?_enumeration wf v
  | .requestId, _, v => by
    rw [Schema.fault?, Schema.Conforms, ← Json.ofJson?_isSome_iff]
    cases (RequestId.ofJson? v).isSome <;> simp
  | .record name fields, wf, v => by
    simp only [Schema.isWellFormed, Bool.and_eq_true] at wf
    rw [Schema.Conforms]
    cases v with
    | obj members =>
      rw [Schema.fault?, earliest_eq_none_iff, fields.faults_eq_nil_iff wf.2]
      simp
    | _ => simp [Schema.fault?]
  | .union name firstKind first secondKind second, wf, v => by
    simp only [Schema.isWellFormed, Bool.and_eq_true, decide_eq_true_eq] at wf
    obtain ⟨⟨⟨hk₁, hk₂, hne⟩, wf₁⟩, wf₂⟩ := wf
    have h₁ := Schema.kind_of_conforms (v := v) hk₁
    have h₂ := Schema.kind_of_conforms (v := v) hk₂
    rw [Schema.fault?, Schema.Conforms]
    split
    · rename_i hv
      rw [first.fault?_eq_none_iff wf₁]
      exact ⟨Or.inl, fun h => h.resolve_right fun h => hne (hv.symm.trans (h₂ h))⟩
    · rename_i hv₁
      split
      · rename_i hv
        rw [second.fault?_eq_none_iff wf₂]
        exact ⟨Or.inr, fun h => h.resolve_left fun h => hv₁ (h₁ h)⟩
      · rename_i hv₂
        exact iff_of_false nofun fun h => h.elim (fun h => hv₁ (h₁ h)) fun h => hv₂ (h₂ h)
  | .list name item, wf, v => by
    rw [Schema.Conforms]
    cases v with
    | arr items =>
      rw [Schema.fault?, List.findSome?_eq_none_iff, Json.isArrayOf_arr]
      exact forall₂_congr fun x _ => item.fault?_eq_none_iff wf x
    | _ => simp [Schema.fault?, Json.IsArrayOf]
  | .oneOrMany item, wf, v => by
    simp only [Schema.isWellFormed, Bool.and_eq_true, Bool.not_eq_true'] at wf
    rw [Schema.Conforms]
    cases v with
    | arr items =>
      rw [Schema.fault?, List.findSome?_eq_none_iff, Json.isArrayOf_arr,
        or_iff_right (Schema.not_conforms_arr wf.1)]
      exact forall₂_congr fun x _ => item.fault?_eq_none_iff wf.2 x
    | _ => simp [Schema.fault?, item.fault?_eq_none_iff wf.2, Json.IsArrayOf]
  | .anyNumber name item, wf, v => by
    simp only [Schema.isWellFormed, Bool.and_eq_true, decide_eq_true_eq] at wf
    have hk := Schema.kind_of_conforms (v := v) wf.1
    rw [Schema.Conforms]
    cases v with
    | arr items =>
      have hn : ¬ item.Conforms (.arr items) := fun h => nomatch hk h
      rw [Schema.fault?, List.findSome?_eq_none_iff, Json.isArrayOf_arr, or_iff_right nofun, or_iff_right hn]
      exact forall₂_congr fun x _ => item.fault?_eq_none_iff wf.2 x
    | obj members => simp [Schema.fault?, item.fault?_eq_none_iff wf.2, Json.IsArrayOf]
    | null => simp [Schema.fault?]
    | _ => simpa [Schema.fault?, Json.IsArrayOf, Json.kind] using hk
  | .nullable item, wf, v => by
    rw [Schema.Conforms]
    cases v with
    | null => simp [Schema.fault?]
    | _ => simp [Schema.fault?, item.fault?_eq_none_iff wf]

/-- The check of a slot finds nothing just when the value conforms. -/
theorem Slot.fault?_eq_none_iff {owner key : String} :
    (s : Slot) → s.isWellFormed = true → ∀ v, s.fault? owner key v = none ↔ s.Conforms v
  | .plain kind, _, v => by
    rw [Slot.fault?, Slot.Conforms, ← kind.accepts_iff]
    simp
  | .free, _, v => iff_of_true rfl trivial
  | .nested schema, wf, v => by
    rw [Slot.fault?, Option.map_eq_none_iff, Slot.Conforms]
    exact schema.fault?_eq_none_iff wf v
  | .many item, wf, v => by
    rw [Slot.Conforms]
    cases v with
    | arr items =>
      rw [Slot.fault?, Option.map_eq_none_iff, List.findSome?_eq_none_iff, Json.isArrayOf_arr]
      exact forall₂_congr fun x _ => item.fault?_eq_none_iff wf x
    | _ => simp [Slot.fault?, Json.IsArrayOf]
  | .table item, wf, v => by
    rw [Slot.Conforms]
    cases v with
    | obj members =>
      rw [Slot.fault?, Option.map_eq_none_iff, List.findSome?_eq_none_iff]
      simp only [Json.obj.injEq, exists_eq_left']
      refine forall₂_congr fun m _ => ?_
      rw [← Uri.isUri_iff]
      cases Uri.isUri m.1 with
      | false => simp
      | true =>
        rw [if_pos rfl, and_iff_right rfl]
        split
        · rename_i items hm
          rw [hm, List.findSome?_eq_none_iff, Json.isArrayOf_arr]
          exact forall₂_congr fun x _ => item.fault?_eq_none_iff wf x
        · rename_i hm
          exact iff_of_false nofun fun ⟨items, hi, _⟩ => hm items hi
    | _ => simp [Slot.fault?]

/-- The checks of the fields find nothing just when the members conform. -/
theorem Fields.faults_eq_nil_iff {owner : String} :
    (fs : Fields) → fs.isWellFormed = true → ∀ members, fs.faults owner members = [] ↔ fs.Conforms members
  | .nil, _, _ => iff_of_true rfl trivial
  | .cons key late presence slot rest, wf, members => by
    simp only [Fields.isWellFormed, Bool.and_eq_true] at wf
    obtain ⟨⟨hs, wfs⟩, wfr⟩ := wf
    have hslot : ∀ v, slot.fault? owner key v = none ↔ slot.Conforms v := slot.fault?_eq_none_iff wfs
    rw [Fields.faults, List.append_eq_nil_iff, rest.faults_eq_nil_iff wfr]
    cases presence with
    | required =>
      rw [Fields.Conforms]
      refine and_congr_left fun _ => ?_
      cases members.get? key with
      | none => simp
      | some v => simp [hslot]
    | optional =>
      rw [Fields.Conforms]
      refine and_congr_left fun _ => ?_
      cases members.get? key with
      | none => simp
      | some v => simp [hslot, ← Slot.conforms_iff_of_suits hs]
    | nullIfAbsent =>
      rw [Fields.Conforms]
      refine and_congr_left fun _ => ?_
      cases members.get? key with
      | none => simp
      | some v => simp [hslot]
  | .version rest, wf, members => by
    rw [Fields.faults, List.append_eq_nil_iff, rest.faults_eq_nil_iff wf, Fields.Conforms,
      ← versionFault?_eq_none_iff]
    simp
  | .outcome result error form rest, wf, members => by
    simp only [Fields.isWellFormed, Bool.and_eq_true] at wf
    have hform := form.fault?_eq_none_iff wf.1
    rw [Fields.faults, List.append_eq_nil_iff, List.append_eq_nil_iff, List.append_eq_nil_iff,
      rest.faults_eq_nil_iff wf.2, Fields.Conforms, and_assoc, and_assoc]
    refine and_congr ?_ (and_congr ?_ (and_congr_left fun _ => ?_))
    · cases members.get? error <;> simp [hform]
    · cases members.get? result with
      | none => simp
      | some v => cases v <;> simp [Json.kind]
    · unfold Json.Members.has
      cases members.get? result <;> cases members.get? error <;> simp
  | .without key rest, wf, members => by
    rw [Fields.faults, List.append_eq_nil_iff, rest.faults_eq_nil_iff wf, Fields.Conforms]
    refine and_congr_left fun _ => ?_
    unfold Json.Members.has
    cases members.get? key <;> simp

end

end LanguageServer
