import LanguageServer.Content.Hover
import LanguageServer.Content.StartUp
import LanguageServer.Message
import LanguageServer.Proofs.Json.Reader
import LanguageServer.Proofs.Schema.Writing

/-! Reading what was written. The normal form of a value conforms to the same schema and reads as the same
    value. With the writing of normal forms this is the round trip: what was read is written in normal form,
    this reads back as what was read, and it is its own normal form (`Content.toJson_read`). -/

namespace LanguageServer

/-! ### The normal form reads as the same value -/

/-- Only null has null as its normal form. -/
theorem Schema.normal_ne_null : (s : Schema) → ∀ v, v ≠ .null → s.normal v ≠ .null
  | .any, _, h | .text, _, h | .enumeration _ _, _, h | .requestId, _, h => h
  | .record _ _, v, h => by cases v <;> simp_all [normal]
  | .union _ _ first _ second, v, h => by
    rw [normal]
    split
    · exact first.normal_ne_null v h
    · exact second.normal_ne_null v h
  | .list _ _, v, h => by cases v <;> simp_all [normal, Json.mapItems]
  | .oneOrMany _, v, _ => by cases v <;> simp [normal]
  | .anyNumber _ _, v, _ => by cases v <;> simp [normal]
  | .nullable item, v, h => by
    cases v with
    | null => exact absurd rfl h
    | _ => exact item.normal_ne_null _ h

section Items

variable {item : Schema} {items : List Json}

theorem Schema.isArrayOf_map_normal (h : ∀ v ∈ items, item.Conforms (item.normal v)) :
    (Json.arr (items.map item.normal)).IsArrayOf item.Conforms := by
  refine ⟨_, rfl, fun w hw => ?_⟩
  obtain ⟨v, hv, rfl⟩ := List.mem_map.mp hw
  exact h v hv

/-- An item in place of an array of items reads as the array of this item. -/
theorem Schema.singleton_normal {v : Json}
    (h : item.Conforms (item.normal v) ∧ item.decode? (item.normal v) = item.decode? v) :
    (Json.arr [item.normal v]).IsArrayOf item.Conforms ∧
      [item.normal v].mapM item.decode? = (item.decode? v).map ([·]) := by
  obtain ⟨hc, hd⟩ := h
  refine ⟨⟨_, rfl, List.forall_mem_singleton.mpr hc⟩, ?_⟩
  rw [← hd]
  cases h : item.decode? (item.normal v) <;> simp [h]

end Items

mutual

/-- The normal form of a value that conforms also conforms, and it reads as the same value. -/
theorem Schema.decode?_normal :
    (s : Schema) → s.isWellFormed = true → ∀ v, v.Ordered → s.Conforms v →
      s.Conforms (s.normal v) ∧ s.decode? (s.normal v) = s.decode? v
  | .any, _, _, _, h | .text, _, _, _, h | .enumeration _ _, _, _, _, h | .requestId, _, _, _, h => ⟨h, rfl⟩
  | .record name fields, wf, v, ho, hc => by
    obtain ⟨members, rfl, hc⟩ := hc
    simp only [Schema.isWellFormed, Bool.and_eq_true, decide_eq_true_eq] at wf
    have hn := Json.Members.nodup_of_rising (Json.ordered_obj.mp ho).1
    obtain ⟨hc, hd⟩ := fields.decode?_normal wf.1 wf.2 members _ (fun _ _ => ho.of_get?) hc fun k _ =>
      Fields.get?_normal hn
    exact ⟨⟨_, rfl, hc⟩, hd⟩
  | .union name firstKind first secondKind second, wf, v, ho, hc => by
    simp only [Schema.isWellFormed, Bool.and_eq_true, decide_eq_true_eq] at wf
    obtain ⟨⟨⟨hk₁, hk₂, hne⟩, wf₁⟩, wf₂⟩ := wf
    rcases hc with hc | hc
    · obtain ⟨hc', hd⟩ := first.decode?_normal wf₁ v ho hc
      have hv := Schema.kind_of_conforms hk₁ hc
      have hv' := Schema.kind_of_conforms hk₁ hc'
      rw [Schema.normal, if_pos hv]
      refine ⟨Or.inl hc', ?_⟩
      rw [Schema.decode?, if_pos hv', hd, Schema.decode?, if_pos hv]
    · obtain ⟨hc', hd⟩ := second.decode?_normal wf₂ v ho hc
      have hv := Schema.kind_of_conforms hk₂ hc
      have hv' := Schema.kind_of_conforms hk₂ hc'
      have hv₁ : v.kind ≠ firstKind := hv ▸ hne.symm
      have hv₁' : (second.normal v).kind ≠ firstKind := hv' ▸ hne.symm
      rw [Schema.normal, if_neg hv₁]
      refine ⟨Or.inr hc', ?_⟩
      rw [Schema.decode?, if_neg hv₁', if_pos hv', hd, Schema.decode?, if_neg hv₁, if_pos hv]
  | .list name item, wf, v, ho, hc => by
    obtain ⟨items, rfl, hc⟩ := hc
    have hi := fun v hv => item.decode?_normal wf v (Json.ordered_arr.mp ho v hv) (hc v hv)
    exact ⟨Schema.isArrayOf_map_normal fun v hv => (hi v hv).1, Many.mapM_map fun v hv => (hi v hv).2⟩
  | .oneOrMany item, wf, v, ho, hc => by
    simp only [Schema.isWellFormed, Bool.and_eq_true, Bool.not_eq_true'] at wf
    rcases hc with hc | ⟨items, rfl, hc⟩
    · obtain ⟨hone, hread⟩ := Schema.singleton_normal (item.decode?_normal wf.2 v ho hc)
      cases v with
      | arr items => exact absurd hc (Schema.not_conforms_arr wf.1)
      | _ => exact ⟨Or.inr hone, hread⟩
    · have hi := fun v hv => item.decode?_normal wf.2 v (Json.ordered_arr.mp ho v hv) (hc v hv)
      exact ⟨Or.inr (Schema.isArrayOf_map_normal fun v hv => (hi v hv).1),
        Many.mapM_map fun v hv => (hi v hv).2⟩
  | .anyNumber name item, wf, v, ho, hc => by
    simp only [Schema.isWellFormed, Bool.and_eq_true, decide_eq_true_eq] at wf
    rcases hc with rfl | hc | ⟨items, rfl, hc⟩
    · exact ⟨Or.inr (Or.inr ⟨[], rfl, by simp⟩), rfl⟩
    · have hk := Schema.kind_of_conforms wf.1 hc
      obtain ⟨hone, hread⟩ := Schema.singleton_normal (item.decode?_normal wf.2 v ho hc)
      cases v with
      | obj members => exact ⟨Or.inr (Or.inr hone), hread⟩
      | _ => cases hk
    · have hi := fun v hv => item.decode?_normal wf.2 v (Json.ordered_arr.mp ho v hv) (hc v hv)
      exact ⟨Or.inr (Or.inr (Schema.isArrayOf_map_normal fun v hv => (hi v hv).1)),
        Many.mapM_map fun v hv => (hi v hv).2⟩
  | .nullable item, wf, v, ho, hc => by
    by_cases hv : v = .null
    · subst hv
      exact ⟨Or.inl rfl, rfl⟩
    · obtain ⟨hc', hd⟩ := item.decode?_normal wf v ho (hc.resolve_left hv)
      have hv' := item.normal_ne_null v hv
      rw [Schema.normal_nullable hv]
      refine ⟨Or.inr hc', ?_⟩
      rw [Schema.decode?_nullable hv', hd, Schema.decode?_nullable hv]

/-- The normal form of the value of a slot. -/
theorem Slot.decode?_normal :
    (s : Slot) → s.isWellFormed = true → ∀ v, v.Ordered → s.Conforms v →
      s.Conforms (s.normal v) ∧ s.decode? (s.normal v) = s.decode? v
  | .plain _, _, _, _, h | .free, _, _, _, h => ⟨h, rfl⟩
  | .nested schema, wf, v, ho, hc => schema.decode?_normal wf v ho hc
  | .many item, wf, v, ho, hc => by
    obtain ⟨items, rfl, hc⟩ := hc
    have hi := fun v hv => item.decode?_normal wf v (Json.ordered_arr.mp ho v hv) (hc v hv)
    exact ⟨Schema.isArrayOf_map_normal fun v hv => (hi v hv).1, Many.mapM_map fun v hv => (hi v hv).2⟩
  | .table item, wf, v, ho, hc => by
    obtain ⟨members, rfl, hc⟩ := hc
    obtain ⟨-, ho⟩ := Json.ordered_obj.mp ho
    refine ⟨⟨_, rfl, fun m' hm' => ?_⟩, Many.mapM_map fun m hm => ?_⟩
    · obtain ⟨m, hm, rfl⟩ := List.mem_map.mp hm'
      obtain ⟨hu, items, hi, hc⟩ := hc m hm
      have ho := ho m hm
      rw [hi] at ho
      refine ⟨hu, ?_⟩
      rw [hi]
      exact Schema.isArrayOf_map_normal fun v hv =>
        (item.decode?_normal wf v (Json.ordered_arr.mp ho v hv) (hc v hv)).1
    · obtain ⟨-, items, hi, hc⟩ := hc m hm
      have ho := ho m hm
      rw [hi] at ho
      rw [hi]
      exact congrArg (Option.map (m.1, ·)) (Many.mapM_map fun v hv =>
        (item.decode?_normal wf v (Json.ordered_arr.mp ho v hv) (hc v hv)).2)

/-- Members that have under each key of the fields what the normal form has there. -/
theorem Fields.decode?_normal :
    (fs : Fields) → fs.keys.Nodup → fs.isWellFormed = true → ∀ members written,
      (∀ key v, members.get? key = some v → v.Ordered) → fs.Conforms members →
      (∀ k ∈ fs.keys, written.get? k = fs.normalAt members k) →
      fs.Conforms written ∧ fs.decode? written = fs.decode? members
  | .nil, _, _, _, _, _, _, _ => ⟨trivial, rfl⟩
  | .cons key late .required slot rest, hn, wf, members, written, ho, ⟨⟨v, hv, hs⟩, hc⟩, hw => by
    simp only [Fields.isWellFormed, Bool.and_eq_true] at wf
    obtain ⟨hkey, hn⟩ := List.nodup_cons.mp hn
    obtain ⟨hself, hw⟩ := List.forall_mem_cons.mp hw
    obtain ⟨hs', hd⟩ := slot.decode?_normal wf.1.2 v (ho key v hv) hs
    obtain ⟨hc', hdr⟩ := rest.decode?_normal hn wf.2 members written ho hc fun k hk =>
      (hw k hk).trans (Fields.normalAt_cons_of_ne (ne_of_mem_of_not_mem hk hkey).symm)
    rw [Fields.normalAt_cons_self hkey, hv] at hself
    refine ⟨⟨⟨_, hself, hs'⟩, hc'⟩, ?_⟩
    rw [Fields.decode?_required hself, hd, hdr, Fields.decode?_required hv]
  | .cons key late .nullIfAbsent slot rest, hn, wf, members, written, ho, ⟨hs, hc⟩, hw => by
    simp only [Fields.isWellFormed, Bool.and_eq_true] at wf
    obtain ⟨hkey, hn⟩ := List.nodup_cons.mp hn
    obtain ⟨hself, hw⟩ := List.forall_mem_cons.mp hw
    obtain ⟨hc', hdr⟩ := rest.decode?_normal hn wf.2 members written ho hc fun k hk =>
      (hw k hk).trans (Fields.normalAt_cons_of_ne (ne_of_mem_of_not_mem hk hkey).symm)
    rw [Fields.normalAt_cons_self hkey] at hself
    cases hv : members.get? key with
    | none =>
      rw [hv] at hself
      refine ⟨⟨fun w hw => ?_, hc'⟩, ?_⟩
      · cases hself.symm.trans hw
        exact Slot.conforms_null_of_suits wf.1.1
      · rw [Fields.decode?_nullIfAbsent (congrArg (Option.getD · .null) hself), hdr,
          Fields.decode?_nullIfAbsent (congrArg (Option.getD · .null) hv)]
        rfl
    | some v =>
      rw [hv] at hself
      obtain ⟨hs', hd⟩ := slot.decode?_normal wf.1.2 v (ho key v hv) (hs v hv)
      refine ⟨⟨fun w hw => ?_, hc'⟩, ?_⟩
      · cases hself.symm.trans hw
        exact hs'
      · rw [Fields.decode?_nullIfAbsent (congrArg (Option.getD · .null) hself), hdr,
          Fields.decode?_nullIfAbsent (congrArg (Option.getD · .null) hv)]
        exact congrArg (Option.bind · _) hd
  | .cons key late .optional slot rest, hn, wf, members, written, ho, ⟨hs, hc⟩, hw => by
    simp only [Fields.isWellFormed, Bool.and_eq_true] at wf
    obtain ⟨hkey, hn⟩ := List.nodup_cons.mp hn
    obtain ⟨hself, hw⟩ := List.forall_mem_cons.mp hw
    obtain ⟨hc', hdr⟩ := rest.decode?_normal hn wf.2 members written ho hc fun k hk =>
      (hw k hk).trans (Fields.normalAt_cons_of_ne (ne_of_mem_of_not_mem hk hkey).symm)
    rw [Fields.normalAt_cons_self hkey] at hself
    -- A null that stands for no value is not written, so it is absent where it is read again.
    by_cases habsent : members.get? key = none ∨ ∃ v, members.get? key = some v ∧ slot.dropsNull v = true
    · have hself : written.get? key = none := by
        rcases habsent with hv | ⟨v, hv, hd⟩
        · rw [hself, hv]
          rfl
        · rw [hself, hv]
          exact if_pos ⟨rfl, hd⟩
      refine ⟨⟨fun w hw => absurd (hself.symm.trans hw) nofun, hc'⟩, ?_⟩
      rw [Fields.decode?_optional_of_absent (Or.inl hself), hdr, Fields.decode?_optional_of_absent habsent]
    · obtain ⟨v, hv⟩ := Option.ne_none_iff_exists'.mp fun hv => habsent (Or.inl hv)
      have hd : slot.dropsNull v = false :=
        Bool.eq_false_iff.mpr fun hd => habsent (Or.inr ⟨v, hv, hd⟩)
      have hself : written.get? key = some (slot.normal v) := by
        rw [hself, hv]
        exact if_neg fun h => Bool.false_ne_true (hd.symm.trans h.2)
      obtain ⟨hs', hds⟩ := slot.decode?_normal wf.1.2 v (ho key v hv)
        ((Slot.conforms_iff_of_suits wf.1.1).mpr (hs v hv))
      refine ⟨⟨fun w hw => ?_, hc'⟩, ?_⟩
      · cases hself.symm.trans hw
        exact (Slot.conforms_iff_of_suits wf.1.1).mp hs'
      · rw [Fields.decode?_optional hself (Slot.dropsNull_normal hd), hds, hdr,
          Fields.decode?_optional hv hd]
  | .version rest, hn, wf, members, written, ho, ⟨hv, hc⟩, hw => by
    obtain ⟨hkey, hn⟩ := List.nodup_cons.mp hn
    obtain ⟨hself, hw⟩ := List.forall_mem_cons.mp hw
    obtain ⟨hc', hdr⟩ := rest.decode?_normal hn wf members written ho hc fun k hk =>
      (hw k hk).trans (Fields.normalAt_version_of_ne (ne_of_mem_of_not_mem hk hkey).symm)
    rw [Fields.normalAt_version_self hkey, hv] at hself
    exact ⟨⟨hself, hc'⟩, hdr⟩
  | .outcome result error form rest, hn, wf, members, written, ho, ⟨he, hr, hx, hc⟩, hw => by
    simp only [Fields.isWellFormed, Bool.and_eq_true] at wf
    obtain ⟨hresult, hn⟩ := List.nodup_cons.mp hn
    obtain ⟨hne, hresult⟩ := not_or.mp (mt List.mem_cons.mpr hresult)
    obtain ⟨herror, hn⟩ := List.nodup_cons.mp hn
    obtain ⟨hwr, hw⟩ := List.forall_mem_cons.mp hw
    obtain ⟨hwe, hw⟩ := List.forall_mem_cons.mp hw
    obtain ⟨hc', hdr⟩ := rest.decode?_normal hn wf.2 members written ho hc fun k hk =>
      (hw k hk).trans (Fields.normalAt_outcome_of_ne (ne_of_mem_of_not_mem hk hresult).symm
        (ne_of_mem_of_not_mem hk herror).symm)
    rw [Fields.normalAt_outcome_result hresult] at hwr
    rw [Fields.normalAt_outcome_error hne herror] at hwe
    have hform := fun v hv => form.decode?_normal wf.1 v (ho error v hv) (he v hv)
    refine ⟨⟨fun w hw => ?_, fun w hw => hr w (hwr ▸ hw), hx.imp hwr.trans fun hv => ?_, hc'⟩, ?_⟩
    · obtain ⟨v, hv, rfl⟩ := Option.map_eq_some_iff.mp (hwe ▸ hw)
      exact (hform v hv).1
    · rw [hwe, hv]
      rfl
    · cases hv : members.get? result with
      | some v =>
        rw [Fields.decode?_outcome_of_result (hwr.trans hv), hdr, Fields.decode?_outcome_of_result hv]
      | none =>
        cases hv' : members.get? error with
        | some v =>
          rw [hv'] at hwe
          rw [Fields.decode?_outcome_of_error (hwr.trans hv) hwe, (hform v hv').2, hdr,
            Fields.decode?_outcome_of_error hv hv']
        | none =>
          rw [hv'] at hwe
          rw [Fields.decode?_outcome_of_absent (hwr.trans hv) hwe, hdr,
            Fields.decode?_outcome_of_absent hv hv']
  | .without key rest, hn, wf, members, written, ho, ⟨hv, hc⟩, hw => by
    obtain ⟨hkey, hn⟩ := List.nodup_cons.mp hn
    obtain ⟨hself, hw⟩ := List.forall_mem_cons.mp hw
    obtain ⟨hc', hdr⟩ := rest.decode?_normal hn wf members written ho hc hw
    rw [Fields.normalAt_without, Fields.normalAt_eq_none hkey] at hself
    exact ⟨⟨hself, hc'⟩, hdr⟩

end

/-! ### Writing what was read, and reading it again -/

namespace Content

variable {α : Type} [Content α] {v : Json} {x : α}

theorem toJson_of_read (ho : v.Ordered) (h : read α v = .ok x) : toJson x = (schema α).normal v := by
  obtain ⟨hc, hd⟩ := read_eq_ok_iff.mp h
  exact (schema α).sorted_encode wellFormed v (pack x) ho hc hd

theorem read_normal (ho : v.Ordered) (h : read α v = .ok x) : read α ((schema α).normal v) = .ok x := by
  obtain ⟨hc, hd⟩ := read_eq_ok_iff.mp h
  obtain ⟨hc', hd'⟩ := (schema α).decode?_normal wellFormed v ho hc
  exact read_eq_ok_iff.mpr ⟨hc', hd'.trans hd⟩

theorem read_toJson (ho : v.Ordered) (h : read α v = .ok x) : read α (toJson x) = .ok x :=
  toJson_of_read ho h ▸ read_normal ho h

/-- A value in order that was read is written in normal form. This reads back as what was read, and it is
    its own normal form. -/
theorem toJson_read (ho : v.Ordered) (h : read α v = .ok x) :
    toJson x = (schema α).normal v ∧ read α (toJson x) = .ok x ∧
      (schema α).normal (toJson x) = toJson x := by
  have hw := toJson_of_read ho h
  have hback : read α (toJson x) = .ok x := hw ▸ read_normal ho h
  exact ⟨hw, hback, (toJson_of_read (Json.ordered_sorted _) hback).symm⟩

/-- A hover with one piece of code, and a key in it that no field speaks of. -/
theorem toJson_read_hover :
    let v := Json.obj [("contents", .obj [("language", .str "c"), ("line", .int 1), ("value", .str "x")])]
    let w := Json.obj [("contents", .arr [.obj [("language", .str "c"), ("value", .str "x")]])]
    let x : HoverResult := { contents := [.code { language := "c", value := "x" }] }
    v.Ordered ∧ read HoverResult v = .ok x ∧ toJson x = w ∧ read HoverResult w = .ok x := by
  intro v w x
  have ho : v.Ordered := by
    refine ⟨List.pairwise_singleton _ _, ⟨?_, trivial, trivial, trivial, trivial⟩, trivial⟩
    rw [Json.Members.Rising]
    decide
  have h : read HoverResult v = .ok x := rfl
  obtain ⟨hw, hback, -⟩ := toJson_read ho h
  have hw : toJson x = w := hw
  rw [hw] at hback
  exact ⟨ho, h, hw, hback⟩

example : (schema InitializeParams).normal (.obj [("capabilities", .obj []), ("rootUri", .null)]) =
    .obj [("capabilities", .obj []), ("processId", .null), ("rootUri", .null)] := rfl
example : (schema ResponseError).normal (.obj [("code", .int 1), ("data", .null), ("message", .str "m")]) =
    .obj [("code", .int 1), ("message", .str "m")] := rfl
example : (schema DefinitionResult).normal .null = .arr [] := rfl

end Content

end LanguageServer
