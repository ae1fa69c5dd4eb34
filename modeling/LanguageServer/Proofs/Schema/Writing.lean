import LanguageServer.Proofs.Schema.NormalForm

/-! Writing what was read gives the normal form (`Schema.sorted_encode`). The induction is on the schema; a
    record is compared key by key, and under each key there is one field to look at, for no key comes
    twice. -/

namespace LanguageServer


variable {item : Schema} {items : List Json} {xs : List item.Value}

/-- The items that were read are written in normal form, if each of them is. -/
theorem Schema.sorted_arr_encode (h : items.mapM item.decode? = some xs)
    (hi : ∀ v ∈ items, ∀ x, item.decode? v = some x → (item.encode x).sorted = item.normal v) :
    (Json.arr (xs.map item.encode)).sorted = .arr (items.map item.normal) := by
  have hm : xs.map (Json.sorted ∘ item.encode) = items.map item.normal := Many.map_of_mapM h hi
  rw [Json.sorted_arr, List.map_map, hm]

theorem Schema.sorted_singleton_encode {v : Json} {x : item.Value}
    (h : (item.encode x).sorted = item.normal v) :
    (Json.arr ([x].map item.encode)).sorted = .arr [item.normal v] := by
  rw [List.map_singleton, Json.sorted_arr, List.map_singleton, h]

theorem RequestId.toJson_of_ofJson? {v : Json} {id : RequestId} (h : RequestId.ofJson? v = some id) :
    id.toJson = v := by
  cases v <;> simp only [RequestId.ofJson?, Option.some.injEq, reduceCtorEq] at h
  · obtain ⟨i, hi, rfl⟩ := Option.map_eq_some_iff.mp h
    obtain ⟨rfl, hl, hu⟩ := Json.Number.signed?_eq_some_iff.mp hi
    rw [RequestId.toJson, Int64.toInt_ofInt_of_le hl hu]
    rfl
  · subst h
    rfl

theorem Schema.encode_of_enumeration {name : String} {values : List (String × Int)} {v : Json}
    {i : Fin values.length} (h : (Schema.enumeration name values).decode? v = some i) :
    (Schema.enumeration name values).encode i = v := by
  obtain ⟨n, hn, hi⟩ := Option.bind_eq_some_iff.mp h
  cases v <;> simp only [Json.signed?, reduceCtorEq] at hn
  obtain ⟨rfl, -, -⟩ := Json.Number.signed?_eq_some_iff.mp hn
  obtain ⟨he, -⟩ := List.findFinIdx?_eq_some_iff.mp hi
  rw [Schema.encode]
  exact congrArg Json.int (of_decide_eq_true he)

/-- One field and the rest are written in normal form if the value of the field is and the rest is. -/
theorem Fields.sorted_get?_cons {key k : String} {late : Bool} {presence : Presence} {slot : Slot}
    {rest : Fields} {members written : Json.Members} {w : Json}
    (hself : some w.sorted = (cons key late presence slot rest).normalAt members key)
    (hrest : (Json.Members.get? k written).map Json.sorted = rest.normalAt members k) :
    (Json.Members.get? k ((key, w) :: written)).map Json.sorted =
      (cons key late presence slot rest).normalAt members k := by
  rw [Json.Members.get?]
  split
  · rename_i hk
    subst hk
    exact hself
  · rename_i hk
    rw [normalAt_cons_of_ne hk]
    exact hrest

mutual

/-- A value in order that was read is written in normal form. -/
theorem Schema.sorted_encode :
    (s : Schema) → s.isWellFormed = true → ∀ v x, v.Ordered → s.Conforms v → s.decode? v = some x →
      (s.encode x).sorted = s.normal v
  | .any, _, v, x, ho, _, h => by
    cases h
    exact Json.sorted_of_ordered v ho
  | .text, _, _, x, _, ⟨s, rfl⟩, h => by
    cases h
    rfl
  | .enumeration name values, _, v, x, ho, _, h => by
    rw [Schema.encode_of_enumeration h, Json.sorted_of_ordered v ho, Schema.normal]
  | .requestId, _, v, x, ho, _, h => by
    rw [Schema.encode, RequestId.toJson_of_ofJson? h, Json.sorted_of_ordered v ho, Schema.normal]
  | .record name fields, wf, v, x, ho, hc, h => by
    obtain ⟨members, rfl, hc⟩ := hc
    simp only [Schema.isWellFormed, Bool.and_eq_true, decide_eq_true_eq] at wf
    obtain ⟨hr, -⟩ := Json.ordered_obj.mp ho
    have hn := Json.Members.nodup_of_rising hr
    rw [Schema.encode, Json.sorted, Schema.normal]
    refine congrArg Json.obj (Json.Members.ext_of_rising (Json.Members.rising_ofList _)
      (Json.Members.rising_withNulls (Json.Members.rising_filterMap hr)) fun k => ?_)
    rw [Json.get?_sorted (wf.1.sublist (fields.keys_encode_sublist x)), Fields.get?_normal hn]
    exact fields.sorted_get?_encode wf.1 wf.2 members x k (fun _ _ => ho.of_get?) hc h
  | .union name firstKind first secondKind second, wf, v, x, ho, hc, h => by
    simp only [Schema.isWellFormed, Bool.and_eq_true, decide_eq_true_eq] at wf
    obtain ⟨⟨⟨hk₁, hk₂, hne⟩, wf₁⟩, wf₂⟩ := wf
    rw [Schema.normal]
    rcases hc with hc | hc
    · have hv := Schema.kind_of_conforms hk₁ hc
      rw [Schema.decode?, if_pos hv] at h
      obtain ⟨y, hy, rfl⟩ := Option.map_eq_some_iff.mp h
      rw [if_pos hv]
      exact first.sorted_encode wf₁ v y ho hc hy
    · have hv := Schema.kind_of_conforms hk₂ hc
      rw [Schema.decode?, if_neg (hv ▸ hne.symm), if_pos hv] at h
      obtain ⟨y, hy, rfl⟩ := Option.map_eq_some_iff.mp h
      rw [if_neg (hv ▸ hne.symm)]
      exact second.sorted_encode wf₂ v y ho hc hy
  | .list name item, wf, v, xs, ho, hc, h => by
    obtain ⟨items, rfl, hc⟩ := hc
    exact Schema.sorted_arr_encode h fun v hv x =>
      item.sorted_encode wf v x (Json.ordered_arr.mp ho v hv) (hc v hv)
  | .oneOrMany item, wf, v, xs, ho, hc, h => by
    simp only [Schema.isWellFormed, Bool.and_eq_true, Bool.not_eq_true'] at wf
    rcases hc with hc | ⟨items, rfl, hc⟩
    · cases v with
      | arr items => exact absurd hc (Schema.not_conforms_arr wf.1)
      | _ =>
        obtain ⟨y, hy, rfl⟩ := Option.map_eq_some_iff.mp h
        exact Schema.sorted_singleton_encode (item.sorted_encode wf.2 _ y ho hc hy)
    · exact Schema.sorted_arr_encode h fun v hv x =>
        item.sorted_encode wf.2 v x (Json.ordered_arr.mp ho v hv) (hc v hv)
  | .anyNumber name item, wf, v, xs, ho, hc, h => by
    simp only [Schema.isWellFormed, Bool.and_eq_true, decide_eq_true_eq] at wf
    rcases hc with rfl | hc | ⟨items, rfl, hc⟩
    · cases h
      rfl
    · have hk := Schema.kind_of_conforms wf.1 hc
      cases v with
      | obj members =>
        obtain ⟨y, hy, rfl⟩ := Option.map_eq_some_iff.mp h
        exact Schema.sorted_singleton_encode (item.sorted_encode wf.2 _ y ho hc hy)
      | _ => cases hk
    · exact Schema.sorted_arr_encode h fun v hv x =>
        item.sorted_encode wf.2 v x (Json.ordered_arr.mp ho v hv) (hc v hv)
  | .nullable item, wf, v, x, ho, hc, h => by
    by_cases hv : v = .null
    · subst hv
      cases h
      rfl
    · obtain ⟨y, hy, rfl⟩ : ∃ y, item.decode? v = some y ∧ some y = x := by
        cases v with
        | null => exact absurd rfl hv
        | _ => exact Option.map_eq_some_iff.mp h
      have hs := item.sorted_encode wf v y ho (hc.resolve_left hv) hy
      cases v with
      | null => exact absurd rfl hv
      | _ => exact hs

/-- The value of a slot that was read is written in normal form. -/
theorem Slot.sorted_encode :
    (s : Slot) → s.isWellFormed = true → ∀ v x, v.Ordered → s.Conforms v → s.decode? v = some x →
      (s.encode x).sorted = s.normal v
  | .plain kind, _, v, x, ho, _, h => by
    rw [Slot.encode, PropertyKind.encode_of_decode? h, Json.sorted_of_ordered v ho, Slot.normal]
  | .free, _, v, x, ho, _, h => by
    cases h
    exact Json.sorted_of_ordered v ho
  | .nested schema, wf, v, x, ho, hc, h => schema.sorted_encode wf v x ho hc h
  | .many item, wf, v, xs, ho, hc, h => by
    obtain ⟨items, rfl, hc⟩ := hc
    exact Schema.sorted_arr_encode h fun v hv x =>
      item.sorted_encode wf v x (Json.ordered_arr.mp ho v hv) (hc v hv)
  | .table item, wf, v, rows, ho, hc, h => by
    obtain ⟨members, rfl, hc⟩ := hc
    obtain ⟨hr, ho⟩ := Json.ordered_obj.mp ho
    have hrows : rows.map (fun row => (row.1, (Json.arr (row.2.map item.encode)).sorted)) =
        members.map fun m => (m.1, m.2.mapItems item.normal) := by
      refine Many.map_of_mapM h fun m hm row hrow => ?_
      obtain ⟨-, items, hi, hc⟩ := hc m hm
      have ho := ho m hm
      rw [hi] at hrow ho ⊢
      obtain ⟨xs, hxs, rfl⟩ := Option.map_eq_some_iff.mp hrow
      rw [Schema.sorted_arr_encode hxs fun v hv x =>
        item.sorted_encode wf v x (Json.ordered_arr.mp ho v hv) (hc v hv)]
      rfl
    have hsorted : Json.Members.ofList (members.map fun m => (m.1, m.2.mapItems item.normal)) =
        members.map fun m => (m.1, m.2.mapItems item.normal) :=
      Json.Members.ofList_of_rising (Json.Members.rising_map hr)
    rw [Slot.encode, Json.sorted, Json.sortedMembers_eq_map, List.map_map, Slot.normal, ← hsorted]
    exact congrArg (Json.obj ∘ Json.Members.ofList) hrows

/-- Under each key the fields write what the normal form has there. -/
theorem Fields.sorted_get?_encode :
    (fs : Fields) → fs.keys.Nodup → fs.isWellFormed = true → ∀ members x k,
      (∀ key v, members.get? key = some v → v.Ordered) → fs.Conforms members →
      fs.decode? members = some x →
      (Json.Members.get? k (fs.encode x)).map Json.sorted = fs.normalAt members k
  | .nil, _, _, members, x, k, _, _, _ => (Fields.normalAt_eq_none List.not_mem_nil).symm
  | .cons key late .required slot rest, hn, wf, members, x, k, ho, ⟨⟨v, hv, hs⟩, hc⟩, h => by
    simp only [Fields.isWellFormed, Bool.and_eq_true] at wf
    obtain ⟨hkey, hn⟩ := List.nodup_cons.mp hn
    rw [Fields.decode?_required hv] at h
    obtain ⟨y, hy, h⟩ := Option.bind_eq_some_iff.mp h
    obtain ⟨z, hz, rfl⟩ := Option.map_eq_some_iff.mp h
    refine Fields.sorted_get?_cons ?_ (rest.sorted_get?_encode hn wf.2 members z k ho hc hz)
    rw [Fields.normalAt_cons_self hkey, hv, slot.sorted_encode wf.1.2 v y (ho key v hv) hs hy]
    rfl
  | .cons key late .nullIfAbsent slot rest, hn, wf, members, x, k, ho, ⟨hs, hc⟩, h => by
    simp only [Fields.isWellFormed, Bool.and_eq_true] at wf
    obtain ⟨hkey, hn⟩ := List.nodup_cons.mp hn
    rw [Fields.decode?_nullIfAbsent rfl] at h
    obtain ⟨y, hy, h⟩ := Option.bind_eq_some_iff.mp h
    obtain ⟨z, hz, rfl⟩ := Option.map_eq_some_iff.mp h
    refine Fields.sorted_get?_cons ?_ (rest.sorted_get?_encode hn wf.2 members z k ho hc hz)
    rw [Fields.normalAt_cons_self hkey]
    cases hv : members.get? key with
    | none =>
      rw [hv] at hy
      rw [slot.sorted_encode wf.1.2 .null y Json.ordered_null (Slot.conforms_null_of_suits wf.1.1) hy,
        Slot.normal_null wf.1.1]
      rfl
    | some v =>
      rw [hv] at hy
      rw [slot.sorted_encode wf.1.2 v y (ho key v hv) (hs v hv) hy]
      rfl
  | .cons key late .optional slot rest, hn, wf, members, x, k, ho, ⟨hs, hc⟩, h => by
    simp only [Fields.isWellFormed, Bool.and_eq_true] at wf
    obtain ⟨hkey, hn⟩ := List.nodup_cons.mp hn
    by_cases habsent : members.get? key = none ∨ ∃ v, members.get? key = some v ∧ slot.dropsNull v = true
    -- Nothing is written under the key, and the rest writes nothing there either.
    · rw [Fields.decode?_optional_of_absent habsent] at h
      obtain ⟨z, hz, rfl⟩ := Option.map_eq_some_iff.mp h
      have hrest := rest.sorted_get?_encode hn wf.2 members z k ho hc hz
      refine Eq.trans hrest ?_
      by_cases hk : key = k
      · subst hk
        rw [Fields.normalAt_eq_none hkey, Fields.normalAt_cons_self hkey]
        rcases habsent with hv | ⟨v, hv, hd⟩
        · rw [hv]
          rfl
        · rw [hv]
          exact (if_pos ⟨rfl, hd⟩).symm
      · rw [Fields.normalAt_cons_of_ne hk]
    · obtain ⟨v, hv⟩ := Option.ne_none_iff_exists'.mp fun hv => habsent (Or.inl hv)
      have hd : slot.dropsNull v = false :=
        Bool.eq_false_iff.mpr fun hd => habsent (Or.inr ⟨v, hv, hd⟩)
      have hs := (Slot.conforms_iff_of_suits wf.1.1).mpr (hs v hv)
      rw [Fields.decode?_optional hv hd] at h
      obtain ⟨y, hy, h⟩ := Option.bind_eq_some_iff.mp h
      obtain ⟨z, hz, rfl⟩ := Option.map_eq_some_iff.mp h
      refine Fields.sorted_get?_cons ?_ (rest.sorted_get?_encode hn wf.2 members z k ho hc hz)
      rw [Fields.normalAt_cons_self hkey, hv, slot.sorted_encode wf.1.2 v y (ho key v hv) hs hy]
      exact (if_neg fun h => Bool.false_ne_true (hd.symm.trans h.2)).symm
  | .version rest, hn, wf, members, x, k, ho, ⟨hv, hc⟩, h => by
    obtain ⟨hkey, hn⟩ := List.nodup_cons.mp hn
    rw [Fields.encode, Json.Members.get?]
    split
    · rename_i hk
      subst hk
      rw [Fields.normalAt, hv]
      simp [Fields.keep, Json.sorted]
    · rename_i hk
      rw [Fields.normalAt_version_of_ne hk]
      exact rest.sorted_get?_encode hn wf members x k ho hc h
  | .outcome result error form rest, hn, wf, members, x, k, ho, ⟨he, _, hx, hc⟩, h => by
    simp only [Fields.isWellFormed, Bool.and_eq_true] at wf
    obtain ⟨hresult, hn⟩ := List.nodup_cons.mp hn
    obtain ⟨hne, hresult⟩ := not_or.mp (mt List.mem_cons.mpr hresult)
    obtain ⟨herror, hn⟩ := List.nodup_cons.mp hn
    have hrest := fun z hz => rest.sorted_get?_encode hn wf.2 members z k ho hc hz
    -- At most one of the two keys is there, and that one is written. Under the other one neither the
    -- outcome nor the rest has anything.
    cases hr : members.get? result with
    | some v =>
      have hnone := hx.resolve_left fun h => nomatch hr.symm.trans h
      rw [Fields.decode?_outcome_of_result hr] at h
      obtain ⟨z, hz, rfl⟩ := Option.map_eq_some_iff.mp h
      rw [Fields.encode, List.singleton_append, Json.Members.get?]
      split
      · rename_i hk
        subst hk
        rw [Fields.normalAt_outcome_result hresult, hr, Option.map_some, Json.sorted_of_ordered v (ho _ v hr)]
      · rename_i hk
        rw [hrest z hz]
        by_cases hk' : error = k
        · subst hk'
          rw [Fields.normalAt_outcome_error hne herror, Fields.normalAt_eq_none herror, hnone]
          rfl
        · rw [Fields.normalAt_outcome_of_ne hk hk']
    | none =>
      cases hv : members.get? error with
      | some v =>
        rw [Fields.decode?_outcome_of_error hr hv] at h
        obtain ⟨e, hd, h⟩ := Option.bind_eq_some_iff.mp h
        obtain ⟨z, hz, rfl⟩ := Option.map_eq_some_iff.mp h
        rw [Fields.encode, List.singleton_append, Json.Members.get?]
        split
        · rename_i hk
          subst hk
          rw [Fields.normalAt_outcome_error hne herror, hv, Option.map_some,
            form.sorted_encode wf.1 v e (ho _ v hv) (he v hv) hd]
          rfl
        · rename_i hk
          rw [hrest z hz]
          by_cases hk' : result = k
          · subst hk'
            rw [Fields.normalAt_outcome_result hresult, Fields.normalAt_eq_none hresult, hr]
          · rw [Fields.normalAt_outcome_of_ne hk' hk]
      | none =>
        rw [Fields.decode?_outcome_of_absent hr hv] at h
        obtain ⟨z, hz, rfl⟩ := Option.map_eq_some_iff.mp h
        refine Eq.trans (hrest z hz) ?_
        by_cases hk : result = k
        · subst hk
          rw [Fields.normalAt_outcome_result hresult, Fields.normalAt_eq_none hresult, hr]
        · by_cases hk' : error = k
          · subst hk'
            rw [Fields.normalAt_outcome_error hne herror, Fields.normalAt_eq_none herror, hv]
            rfl
          · rw [Fields.normalAt_outcome_of_ne hk hk']
  | .without key rest, hn, wf, members, x, k, ho, ⟨_, hc⟩, h =>
    rest.sorted_get?_encode (List.nodup_cons.mp hn).2 wf members x k ho hc h

end

/-! ### The JSON types of values that are written -/

theorem Schema.kind_encode_mem : (s : Schema) → (x : s.Value) → (s.encode x).kind ∈ s.kinds
  | .any, v => by cases v <;> simp [kinds, encode, Json.kind]
  | .text, _ => List.mem_singleton_self _
  | .enumeration _ _, _ => List.mem_singleton_self _
  | .requestId, id => by cases id <;> simp [kinds, encode, RequestId.toJson, Json.kind, Json.int]
  | .record _ _, _ => List.mem_singleton_self _
  | .union _ _ first _ _, .inl x => List.mem_append_left _ (first.kind_encode_mem x)
  | .union _ _ _ _ second, .inr x => List.mem_append_right _ (second.kind_encode_mem x)
  | .list _ _, _ => List.mem_singleton_self _
  | .oneOrMany _, _ => List.mem_cons_self
  | .anyNumber _ _, _ => List.mem_cons_of_mem _ List.mem_cons_self
  | .nullable _, none => List.mem_cons_self
  | .nullable item, some x => List.mem_cons_of_mem _ (item.kind_encode_mem x)

/-- A value of an interface is written as one of the JSON types of the interface. -/
theorem Content.kind_toJson_mem {α : Type} [Content α] (x : α) : (toJson x).kind ∈ (schema α).kinds := by
  rw [toJson, Json.kind_sorted]
  exact (schema α).kind_encode_mem (pack x)

end LanguageServer
