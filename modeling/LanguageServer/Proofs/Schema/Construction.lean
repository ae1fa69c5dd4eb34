import LanguageServer.Proofs.Message.Writing
import LanguageServer.Proofs.Schema.RoundTrip

/-! Writing what was built. The round trip that starts from a value of an interface. Most values are written
    in the form of their schema and read back; this fails only where a schema leaves something to free JSON
    or to a number that is no id. A value is sound if what it has in these places is as its schema wants it.
    A sound value conforms when it is written, and it reads back (`Schema.conforms_encode`). Null in an
    optional field of free JSON conforms too, but it reads as no value; whether a sound value may have it is
    a parameter. -/

namespace LanguageServer

/-- The value is an object, in order. -/
def Json.IsObject (v : Json) : Prop := v.kind = .object ∧ v.Ordered

/-- An object is one, and free JSON is in order. -/
def PropertyKind.Sound : (k : PropertyKind) → k.Value → Prop
  | .object, v => v.IsObject
  | .array, items => ∀ v ∈ items, v.Ordered
  | _, _ => True

mutual

/-- What the value of an interface has in free JSON and in ids is as the schema wants it; `nulls` tells
    whether an optional field of free JSON may hold null. -/
def Schema.Sound (nulls : Bool) : (s : Schema) → s.Value → Prop
  | .any, v => v.Ordered
  | .text, _ => True
  | .enumeration _ values, i => values.findFinIdx? (·.2 = (values.get i).2) = some i
  | .requestId, id => id.IsAccepted
  | .record _ fields, x => fields.Sound nulls x
  | .union _ _ first _ _, .inl x => first.Sound nulls x
  | .union _ _ _ _ second, .inr x => second.Sound nulls x
  | .list _ item, xs => ∀ x ∈ xs, item.Sound nulls x
  | .oneOrMany item, xs => ∀ x ∈ xs, item.Sound nulls x
  | .anyNumber _ item, xs => ∀ x ∈ xs, item.Sound nulls x
  | .nullable item, x => ∀ y, x = some y → item.Sound nulls y ∧ item.encode y ≠ .null

/-- What the value of a slot has in free JSON and in ids is as the slot wants it. -/
def Slot.Sound (nulls : Bool) : (s : Slot) → s.Value → Prop
  | .plain kind, x => kind.Sound x
  | .free, v => v.Ordered
  | .nested schema, x => schema.Sound nulls x
  | .many item, xs => ∀ x ∈ xs, item.Sound nulls x
  | .table item, rows => rows.Pairwise (fun a b => a.1 < b.1) ∧
      ∀ row ∈ rows, (∃ u, Uri.parse row.1 = .ok u) ∧ ∀ x ∈ row.2, item.Sound nulls x

/-- What the values of the fields have in free JSON and in ids is as the fields want it. -/
def Fields.Sound (nulls : Bool) : (fs : Fields) → fs.Value → Prop
  | .nil, _ => True
  | .cons _ _ .required slot rest, x => slot.Sound nulls x.1 ∧ rest.Sound nulls x.2
  | .cons _ _ .nullIfAbsent slot rest, x => slot.Sound nulls x.1 ∧ rest.Sound nulls x.2
  | .cons _ _ .optional slot rest, x =>
    (∀ y, x.1 = some y → slot.Sound nulls y ∧ (slot.dropsNull (slot.encode y) = true → nulls = true)) ∧
      rest.Sound nulls x.2
  | .version rest, x => rest.Sound nulls x
  | .outcome _ _ form rest, x =>
    (∀ v, x.1 = some (.inl v) → (v.kind = .object ∨ v.kind = .array ∨ v.kind = .null) ∧ v.Ordered) ∧
      (∀ e, x.1 = some (.inr e) → form.Sound nulls e) ∧ rest.Sound nulls x.2
  | .without _ rest, x => rest.Sound nulls x

end

/-! ### Plain properties -/

theorem PropertyKind.sorted_encode {k : PropertyKind} {x : k.Value} (h : k.Sound x) :
    (k.encode x).sorted = k.encode x := by
  refine Json.sorted_of_ordered _ ?_
  cases k with
  | object => exact h.2
  | array => exact Json.ordered_arr.mpr h
  | arrayOfString =>
    refine Json.ordered_arr.mpr fun v hv => ?_
    obtain ⟨s, -, rfl⟩ := List.mem_map.mp hv
    trivial
  | stringOrInteger => cases x <;> trivial
  | unsignedOrNull | uriOrNull => cases x <;> trivial
  | _ => trivial

theorem PropertyKind.decode?_encode {k : PropertyKind} {x : k.Value} (h : k.Sound x) :
    k.decode? (k.encode x) = some x := by
  cases k with
  | object =>
    obtain ⟨hk, -⟩ := h
    cases x <;> cases hk
    rfl
  | array | string | number | boolean => rfl
  | integer => exact integer?_eq_some_iff.mpr rfl
  | unsigned => exact unsigned?_eq_some_iff.mpr rfl
  | stringOrInteger =>
    cases x with
    | number n =>
      have hn : (Json.Number.int n.toInt).signed? = some n.toInt :=
        Json.Number.signed?_eq_some_iff.mpr ⟨rfl, n.le_toInt, n.toInt_lt⟩
      rw [encode, Json.int, decode?, hn, Option.map_some, Int64.ofInt_toInt]
    | name s => rfl
  | unsignedOrNull =>
    cases x with
    | none => rfl
    | some n => exact Option.map_eq_some_iff.mpr ⟨n, unsigned?_eq_some_iff.mpr rfl, rfl⟩
  | arrayOfString => exact Many.mapM_map_eq_some fun s _ => rfl
  | uri => exact toOption_parse_eq_some_iff.mpr x.parse_text
  | uriOrNull =>
    cases x with
    | none => rfl
    | some u => exact Option.map_eq_some_iff.mpr ⟨u, toOption_parse_eq_some_iff.mpr u.parse_text, rfl⟩

theorem PropertyKind.conforms_encode {k : PropertyKind} {x : k.Value} (h : k.Sound x) :
    k.Conforms (k.encode x) := by
  cases k with
  | object =>
    obtain ⟨hk, -⟩ := h
    cases x <;> cases hk
    exact ⟨_, rfl⟩
  | array | string | number | boolean => exact ⟨x, rfl⟩
  | integer => exact exists_integer?_iff.mp ⟨x, integer?_eq_some_iff.mpr rfl⟩
  | unsigned => exact exists_unsigned?_iff.mp ⟨x, unsigned?_eq_some_iff.mpr rfl⟩
  | stringOrInteger =>
    cases x with
    | number n => exact Or.inr ⟨n.toInt, rfl, n.le_toInt, n.toInt_lt⟩
    | name s => exact Or.inl ⟨s, rfl⟩
  | unsignedOrNull =>
    cases x with
    | none => exact Or.inl rfl
    | some n => exact Or.inr (exists_unsigned?_iff.mp ⟨n, unsigned?_eq_some_iff.mpr rfl⟩)
  | arrayOfString =>
    refine ⟨_, rfl, fun v hv => ?_⟩
    obtain ⟨s, -, rfl⟩ := List.mem_map.mp hv
    exact ⟨s, rfl⟩
  | uri => exact ⟨_, x, rfl, x.parse_text⟩
  | uriOrNull =>
    cases x with
    | none => exact Or.inl rfl
    | some u => exact Or.inr ⟨_, u, rfl, u.parse_text⟩

/-! ### Interfaces -/

section Items

variable {item : Schema} {nulls : Bool} {xs : List item.Value}

/-- Sound items are written as an array of items, and they read back. -/
theorem Schema.conforms_arr_encode
    (h : ∀ x ∈ xs, item.Conforms (item.encode x).sorted ∧
      (nulls = false → item.decode? (item.encode x).sorted = some x)) :
    ∃ items, (Json.arr (xs.map item.encode)).sorted = .arr items ∧ (∀ v ∈ items, item.Conforms v) ∧
      (nulls = false → items.mapM item.decode? = some xs) := by
  refine ⟨xs.map fun x => (item.encode x).sorted, ?_, fun v hv => ?_, fun hn => ?_⟩
  · rw [Json.sorted_arr, List.map_map]
    rfl
  · obtain ⟨x, hx, rfl⟩ := List.mem_map.mp hv
    exact (h x hx).1
  · exact Many.mapM_map_eq_some fun x hx => (h x hx).2 hn

/-- A table whose keys rise is written row by row. -/
theorem Slot.sorted_encode_table {rows : List (String × List item.Value)}
    (h : rows.Pairwise fun a b => a.1 < b.1) :
    (Slot.encode (.table item) rows).sorted =
      .obj (rows.map fun row => (row.1, (Json.arr (row.2.map item.encode)).sorted)) := by
  rw [Slot.encode, Json.sorted, Json.sortedMembers_eq_map, List.map_map]
  exact congrArg Json.obj (Json.Members.ofList_of_rising (List.pairwise_map.mpr h))

end Items

theorem Slot.dropsNull_sorted {slot : Slot} {v : Json} : slot.dropsNull v.sorted = slot.dropsNull v := by
  cases slot <;> cases v <;> rfl

theorem Fields.get?_encode_eq_none {fs : Fields} {k : String} (h : k ∉ fs.keys) (x : fs.Value) :
    Json.Members.get? k (fs.encode x) = none :=
  Json.Members.get?_eq_none_iff.mpr fun hk => h ((fs.keys_encode_sublist x).subset hk)

/-- Behind the first member there is, under the keys of the other fields, what these write. -/
theorem Fields.get?_rest {key : String} {w : Json} {written members : Json.Members} {rest : Fields}
    (hkey : key ∉ rest.keys)
    (h : ∀ k ∈ rest.keys, members.get? k = (Json.Members.get? k ((key, w) :: written)).map Json.sorted) :
    ∀ k ∈ rest.keys, members.get? k = (Json.Members.get? k written).map Json.sorted := by
  intro k hk
  rw [h k hk, Json.Members.get?_cons_of_ne (ne_of_mem_of_not_mem hk hkey).symm]

mutual

/-- A sound value conforms as it is written, and it reads back unless null stands for no value. -/
theorem Schema.conforms_encode {nulls : Bool} :
    (s : Schema) → s.isWellFormed = true → ∀ x, s.Sound nulls x →
      s.Conforms (s.encode x).sorted ∧ (nulls = false → s.decode? (s.encode x).sorted = some x)
  | .any, _, v, h => by
    rw [Schema.encode, Json.sorted_of_ordered v h]
    exact ⟨trivial, fun _ => rfl⟩
  | .text, _, s, _ => ⟨⟨s, rfl⟩, fun _ => rfl⟩
  | .enumeration name values, wf, i, h => by
    have hm : (values.get i).2 ∈ values.map (·.2) := List.mem_map_of_mem (List.get_mem values i)
    exact ⟨⟨_, rfl, hm⟩, fun _ => Option.bind_eq_some_iff.mpr ⟨_, Schema.signed?_of_listed wf hm, h⟩⟩
  | .requestId, _, id, h => by
    have hread := RequestId.ofJson?_toJson h
    rw [Schema.encode, RequestId.sorted_toJson]
    exact ⟨Json.ofJson?_isSome_iff.mp (Option.isSome_iff_exists.mpr ⟨id, hread⟩), fun _ => hread⟩
  | .record name fields, wf, x, h => by
    simp only [Schema.isWellFormed, Bool.and_eq_true, decide_eq_true_eq] at wf
    obtain ⟨hc, hd⟩ := fields.conforms_encode wf.1 wf.2 x h
      (Json.Members.ofList (Json.sortedMembers (fields.encode x)))
      fun k _ => Json.get?_sorted (wf.1.sublist (fields.keys_encode_sublist x))
    rw [Schema.encode, Json.sorted]
    exact ⟨⟨_, rfl, hc⟩, hd⟩
  | .union name firstKind first secondKind second, wf, .inl x, h => by
    simp only [Schema.isWellFormed, Bool.and_eq_true, decide_eq_true_eq] at wf
    obtain ⟨⟨⟨hk, -, -⟩, wf⟩, -⟩ := wf
    obtain ⟨hc, hd⟩ := first.conforms_encode wf x h
    refine ⟨Or.inl hc, fun hn => ?_⟩
    rw [Schema.encode, Schema.decode?, if_pos (Schema.kind_of_conforms hk hc), hd hn]
    rfl
  | .union name firstKind first secondKind second, wf, .inr x, h => by
    simp only [Schema.isWellFormed, Bool.and_eq_true, decide_eq_true_eq] at wf
    obtain ⟨⟨⟨-, hk, hne⟩, -⟩, wf⟩ := wf
    obtain ⟨hc, hd⟩ := second.conforms_encode wf x h
    have hv := Schema.kind_of_conforms hk hc
    refine ⟨Or.inr hc, fun hn => ?_⟩
    rw [Schema.encode, Schema.decode?, if_neg (hv ▸ hne.symm), if_pos hv, hd hn]
    rfl
  | .list name item, wf, xs, h => by
    obtain ⟨items, he, hc, hd⟩ := Schema.conforms_arr_encode fun x hx => item.conforms_encode wf x (h x hx)
    rw [Schema.encode, he]
    exact ⟨⟨items, rfl, hc⟩, hd⟩
  | .oneOrMany item, wf, xs, h => by
    simp only [Schema.isWellFormed, Bool.and_eq_true] at wf
    obtain ⟨items, he, hc, hd⟩ := Schema.conforms_arr_encode fun x hx => item.conforms_encode wf.2 x (h x hx)
    rw [Schema.encode, he]
    exact ⟨Or.inr ⟨items, rfl, hc⟩, hd⟩
  | .anyNumber name item, wf, xs, h => by
    simp only [Schema.isWellFormed, Bool.and_eq_true] at wf
    obtain ⟨items, he, hc, hd⟩ := Schema.conforms_arr_encode fun x hx => item.conforms_encode wf.2 x (h x hx)
    rw [Schema.encode, he]
    exact ⟨Or.inr (Or.inr ⟨items, rfl, hc⟩), hd⟩
  | .nullable item, wf, none, _ => ⟨Or.inl rfl, fun _ => rfl⟩
  | .nullable item, wf, some x, h => by
    obtain ⟨hx, hnull⟩ := h x rfl
    obtain ⟨hc, hd⟩ := item.conforms_encode wf x hx
    refine ⟨Or.inr hc, fun hn => ?_⟩
    rw [Schema.encode, Schema.decode?_nullable (Json.sorted_ne_null hnull), hd hn]
    rfl

theorem Slot.conforms_encode {nulls : Bool} :
    (s : Slot) → s.isWellFormed = true → ∀ x, s.Sound nulls x →
      s.Conforms (s.encode x).sorted ∧ (nulls = false → s.decode? (s.encode x).sorted = some x)
  | .plain kind, _, x, h => by
    rw [Slot.encode, PropertyKind.sorted_encode h]
    exact ⟨PropertyKind.conforms_encode h, fun _ => PropertyKind.decode?_encode h⟩
  | .free, _, v, h => by
    rw [Slot.encode, Json.sorted_of_ordered v h]
    exact ⟨trivial, fun _ => rfl⟩
  | .nested schema, wf, x, h => schema.conforms_encode wf x h
  | .many item, wf, xs, h => by
    obtain ⟨items, he, hc, hd⟩ := Schema.conforms_arr_encode fun x hx => item.conforms_encode wf x (h x hx)
    rw [Slot.encode, he]
    exact ⟨⟨items, rfl, hc⟩, hd⟩
  | .table item, wf, rows, ⟨hr, h⟩ => by
    have hrow := fun row (hrow : row ∈ rows) =>
      Schema.conforms_arr_encode fun x hx => item.conforms_encode wf x ((h row hrow).2 x hx)
    rw [Slot.sorted_encode_table hr]
    refine ⟨⟨_, rfl, fun m hm => ?_⟩, fun hn => Many.mapM_map_eq_some fun row hmem => ?_⟩
    · obtain ⟨row, hmem, rfl⟩ := List.mem_map.mp hm
      obtain ⟨items, he, hc, -⟩ := hrow row hmem
      exact ⟨(h row hmem).1, items, he, hc⟩
    · obtain ⟨items, he, -, hd⟩ := hrow row hmem
      simp only [he, hd hn, Option.map_some]

/-- Members that have under each key of the fields what is written there. -/
theorem Fields.conforms_encode {nulls : Bool} :
    (fs : Fields) → fs.keys.Nodup → fs.isWellFormed = true → ∀ x, fs.Sound nulls x → ∀ members,
      (∀ k ∈ fs.keys, members.get? k = (Json.Members.get? k (fs.encode x)).map Json.sorted) →
      fs.Conforms members ∧ (nulls = false → fs.decode? members = some x)
  | .nil, _, _, _, _, _, _ => ⟨trivial, fun _ => rfl⟩
  | .cons key late .required slot rest, hn, wf, (y, z), ⟨hy, hz⟩, members, hm => by
    simp only [Fields.isWellFormed, Bool.and_eq_true] at wf
    obtain ⟨hkey, hn⟩ := List.nodup_cons.mp hn
    obtain ⟨hself, hm⟩ := List.forall_mem_cons.mp hm
    rw [Fields.encode, Json.Members.get?_cons_self, Option.map_some] at hself
    obtain ⟨hc, hd⟩ := slot.conforms_encode wf.1.2 y hy
    obtain ⟨hcr, hdr⟩ := rest.conforms_encode hn wf.2 z hz members (Fields.get?_rest hkey hm)
    refine ⟨⟨⟨_, hself, hc⟩, hcr⟩, fun hnull => ?_⟩
    rw [Fields.decode?_required hself, hd hnull, hdr hnull]
    rfl
  | .cons key late .nullIfAbsent slot rest, hn, wf, (y, z), ⟨hy, hz⟩, members, hm => by
    simp only [Fields.isWellFormed, Bool.and_eq_true] at wf
    obtain ⟨hkey, hn⟩ := List.nodup_cons.mp hn
    obtain ⟨hself, hm⟩ := List.forall_mem_cons.mp hm
    rw [Fields.encode, Json.Members.get?_cons_self, Option.map_some] at hself
    obtain ⟨hc, hd⟩ := slot.conforms_encode wf.1.2 y hy
    obtain ⟨hcr, hdr⟩ := rest.conforms_encode hn wf.2 z hz members (Fields.get?_rest hkey hm)
    refine ⟨⟨fun v hv => ?_, hcr⟩, fun hnull => ?_⟩
    · cases hself.symm.trans hv
      exact hc
    · rw [Fields.decode?_nullIfAbsent (congrArg (Option.getD · .null) hself), Option.getD_some, hd hnull,
        hdr hnull]
      rfl
  | .cons key late .optional slot rest, hn, wf, (none, z), ⟨_, hz⟩, members, hm => by
    simp only [Fields.isWellFormed, Bool.and_eq_true] at wf
    obtain ⟨hkey, hn⟩ := List.nodup_cons.mp hn
    obtain ⟨hself, hm⟩ := List.forall_mem_cons.mp hm
    have hself : members.get? key = none := by
      rw [hself, Fields.encode, List.nil_append, Fields.get?_encode_eq_none hkey, Option.map_none]
    obtain ⟨hcr, hdr⟩ := rest.conforms_encode hn wf.2 z hz members hm
    refine ⟨⟨fun v hv => absurd (hself.symm.trans hv) nofun, hcr⟩, fun hnull => ?_⟩
    rw [Fields.decode?_optional_of_absent (Or.inl hself), hdr hnull]
    rfl
  | .cons key late .optional slot rest, hn, wf, (some y, z), ⟨hy, hz⟩, members, hm => by
    simp only [Fields.isWellFormed, Bool.and_eq_true] at wf
    obtain ⟨hkey, hn⟩ := List.nodup_cons.mp hn
    obtain ⟨hself, hm⟩ := List.forall_mem_cons.mp hm
    rw [Fields.encode, List.singleton_append, Json.Members.get?_cons_self, Option.map_some] at hself
    obtain ⟨hy, hdrop⟩ := hy y rfl
    obtain ⟨hc, hd⟩ := slot.conforms_encode wf.1.2 y hy
    obtain ⟨hcr, hdr⟩ := rest.conforms_encode hn wf.2 z hz members (Fields.get?_rest hkey hm)
    refine ⟨⟨fun v hv => ?_, hcr⟩, fun hnull => ?_⟩
    · cases hself.symm.trans hv
      exact (Slot.conforms_iff_of_suits wf.1.1).mp hc
    -- Null would read as no value, and it is there only if `nulls` allows it.
    · have hkeep : slot.dropsNull (slot.encode y).sorted = false := by
        rw [Slot.dropsNull_sorted]
        exact Bool.eq_false_iff.mpr fun h => Bool.false_ne_true (hnull.symm.trans (hdrop h))
      rw [Fields.decode?_optional hself hkeep, hd hnull, hdr hnull]
      rfl
  | .version rest, hn, wf, x, hx, members, hm => by
    obtain ⟨hkey, hn⟩ := List.nodup_cons.mp hn
    obtain ⟨hself, hm⟩ := List.forall_mem_cons.mp hm
    rw [Fields.encode, Json.Members.get?_cons_self, Option.map_some] at hself
    obtain ⟨hcr, hdr⟩ := rest.conforms_encode hn wf x hx members (Fields.get?_rest hkey hm)
    exact ⟨⟨hself, hcr⟩, hdr⟩
  | .outcome result error form rest, hn, wf, (o, z), ⟨hresult, herror, hz⟩, members, hm => by
    simp only [Fields.isWellFormed, Bool.and_eq_true] at wf
    obtain ⟨hkr, hn⟩ := List.nodup_cons.mp hn
    obtain ⟨hne, hkr⟩ := not_or.mp (mt List.mem_cons.mpr hkr)
    obtain ⟨hke, hn⟩ := List.nodup_cons.mp hn
    obtain ⟨hmr, hm⟩ := List.forall_mem_cons.mp hm
    obtain ⟨hme, hm⟩ := List.forall_mem_cons.mp hm
    have hzr := Fields.get?_encode_eq_none hkr z
    have hze := Fields.get?_encode_eq_none hke z
    -- Under the rest of the keys there is what the rest writes, whatever the outcome is.
    have hrest : ∀ k ∈ rest.keys, members.get? k = (Json.Members.get? k (rest.encode z)).map Json.sorted := by
      rcases o with - | v | e
      · exact hm
      · exact Fields.get?_rest hkr hm
      · exact Fields.get?_rest hke hm
    obtain ⟨hcr, hdr⟩ := rest.conforms_encode hn wf.2 z hz members hrest
    rw [Fields.encode] at hmr hme
    rcases o with - | v | e
    · rw [List.nil_append, hzr, Option.map_none] at hmr
      rw [List.nil_append, hze, Option.map_none] at hme
      refine ⟨⟨by simp [hme], by simp [hmr], Or.inl hmr, hcr⟩, fun hnull => ?_⟩
      rw [Fields.decode?_outcome_of_absent hmr hme, hdr hnull]
      rfl
    · obtain ⟨hkind, ho⟩ := hresult v rfl
      rw [List.singleton_append, Json.Members.get?_cons_self, Option.map_some,
        Json.sorted_of_ordered v ho] at hmr
      rw [List.singleton_append, Json.Members.get?_cons_of_ne hne, hze, Option.map_none] at hme
      refine ⟨⟨by simp [hme], fun w hw => ?_, Or.inr hme, hcr⟩, fun hnull => ?_⟩
      · cases hmr.symm.trans hw
        exact hkind
      · rw [Fields.decode?_outcome_of_result hmr, hdr hnull]
        rfl
    · obtain ⟨hc, hd⟩ := form.conforms_encode wf.1 e (herror e rfl)
      rw [List.singleton_append, Json.Members.get?_cons_of_ne (Ne.symm hne), hzr, Option.map_none] at hmr
      rw [List.singleton_append, Json.Members.get?_cons_self, Option.map_some] at hme
      refine ⟨⟨fun w hw => ?_, by simp [hmr], Or.inl hmr, hcr⟩, fun hnull => ?_⟩
      · cases hme.symm.trans hw
        exact hc
      · rw [Fields.decode?_outcome_of_error hmr hme, hd hnull, hdr hnull]
        rfl
  | .without key rest, hn, wf, x, hx, members, hm => by
    obtain ⟨hkey, hn⟩ := List.nodup_cons.mp hn
    obtain ⟨hself, hm⟩ := List.forall_mem_cons.mp hm
    have hself : members.get? key = none := by
      rw [hself, Fields.encode, Fields.get?_encode_eq_none hkey, Option.map_none]
    obtain ⟨hcr, hdr⟩ := rest.conforms_encode hn wf x hx members hm
    exact ⟨⟨hself, hcr⟩, hdr⟩

end

/-! ### Interfaces without free JSON -/

mutual

/-- No value of the interface has free JSON or an id in it, and different values are written differently. -/
def Schema.isClosed : Schema → Bool
  | .any => false
  | .text => true
  | .enumeration _ values => decide (values.map (·.2)).Nodup
  | .requestId => false
  | .record _ fields => fields.isClosed
  | .union _ _ first _ second => first.isClosed && second.isClosed
  | .list _ item => item.isClosed
  | .oneOrMany item => item.isClosed
  | .anyNumber _ item => item.isClosed
  | .nullable item => !item.kinds.contains .null && item.isClosed

/-- No value of the slot has free JSON or an id in it. -/
def Slot.isClosed : Slot → Bool
  | .plain kind => decide (kind ≠ .object ∧ kind ≠ .array)
  | .free => false
  | .nested schema => schema.isClosed
  | .many item => item.isClosed
  | .table _ => false

/-- No value of the fields has free JSON or an id in it. -/
def Fields.isClosed : Fields → Bool
  | .nil => true
  | .cons _ _ _ slot rest => slot.isClosed && rest.isClosed
  | .version rest => rest.isClosed
  | .outcome _ _ _ _ => false
  | .without _ rest => rest.isClosed

end

theorem Schema.encode_ne_null {s : Schema} (h : s.kinds.contains .null = false) (x : s.Value) :
    s.encode x ≠ .null := by
  intro he
  have hk := s.kind_encode_mem x
  rw [he] at hk
  exact Bool.false_ne_true (h.symm.trans (List.contains_iff_mem.mpr hk))

/-- A listed number is found where it stands, if none is listed twice. -/
theorem Schema.findFinIdx?_get {values : List (String × Int)} (h : (values.map (·.2)).Nodup)
    (i : Fin values.length) : values.findFinIdx? (·.2 = (values.get i).2) = some i := by
  refine List.findFinIdx?_eq_some_iff.mpr ⟨decide_eq_true rfl, fun j hj he => ?_⟩
  have hne := List.pairwise_iff_getElem.mp (List.pairwise_map.mp h) j i j.isLt i.isLt hj
  exact hne (of_decide_eq_true he)

/-- Only free JSON is dropped for being null, so the value of an optional field without any has to be sound
    and nothing more. -/
theorem Slot.sound_given_of_forall {nulls : Bool} {slot : Slot} (h : slot.isClosed = true)
    (hs : ∀ y, slot.Sound nulls y) {o : Option slot.Value} :
    ∀ y, o = some y → slot.Sound nulls y ∧ (slot.dropsNull (slot.encode y) = true → nulls = true) := by
  refine fun y _ => ⟨hs y, fun hd => ?_⟩
  cases slot with
  | free => cases h
  | _ => cases hd

mutual

/-- Every value of a closed interface is sound. -/
theorem Schema.sound_of_isClosed {nulls : Bool} :
    (s : Schema) → s.isClosed = true → ∀ x, s.Sound nulls x
  | .text, _, _ => trivial
  | .enumeration _ _, h, i => Schema.findFinIdx?_get (of_decide_eq_true h) i
  | .record _ fields, h, x => fields.sound_of_isClosed h x
  | .union _ _ first _ second, h, .inl x => first.sound_of_isClosed (Bool.and_eq_true_iff.mp h).1 x
  | .union _ _ first _ second, h, .inr x => second.sound_of_isClosed (Bool.and_eq_true_iff.mp h).2 x
  | .list _ item, h, _ | .oneOrMany item, h, _ | .anyNumber _ item, h, _ => fun x _ =>
    item.sound_of_isClosed h x
  | .nullable item, h, _ => fun y _ => by
    simp only [Schema.isClosed, Bool.and_eq_true, Bool.not_eq_true'] at h
    exact ⟨item.sound_of_isClosed h.2 y, Schema.encode_ne_null h.1 y⟩

theorem Slot.sound_of_isClosed {nulls : Bool} : (s : Slot) → s.isClosed = true → ∀ x, s.Sound nulls x
  | .plain kind, h, x => by
    obtain ⟨ho, ha⟩ := of_decide_eq_true h
    cases kind <;> first | exact absurd rfl ho | exact absurd rfl ha | trivial
  | .nested schema, h, x => schema.sound_of_isClosed h x
  | .many item, h, _ => fun x _ => item.sound_of_isClosed h x

theorem Fields.sound_of_isClosed {nulls : Bool} :
    (fs : Fields) → fs.isClosed = true → ∀ x, fs.Sound nulls x
  | .nil, _, _ => trivial
  | .cons _ _ .required slot rest, h, (y, z) | .cons _ _ .nullIfAbsent slot rest, h, (y, z) => by
    obtain ⟨hs, hr⟩ := Bool.and_eq_true_iff.mp h
    exact ⟨slot.sound_of_isClosed hs y, rest.sound_of_isClosed hr z⟩
  | .cons _ _ .optional slot rest, h, (o, z) => by
    obtain ⟨hs, hr⟩ := Bool.and_eq_true_iff.mp h
    exact ⟨Slot.sound_given_of_forall hs (slot.sound_of_isClosed hs), rest.sound_of_isClosed hr z⟩
  | .version rest, h, x => rest.sound_of_isClosed h x
  | .without _ rest, h, x => rest.sound_of_isClosed h x

end

/-! ### Values of optional fields -/

/-- The value is data that may be given: any JSON, but null only if `nulls` allows it. -/
def Json.IsData (nulls : Bool) (v : Json) : Prop := v.Ordered ∧ (v = .null → nulls = true)

namespace Slot

variable {nulls : Bool} {slot : Slot}

theorem sound_given {y : slot.Value} (hy : slot.Sound nulls y)
    (hd : slot.dropsNull (slot.encode y) = true → nulls = true) :
    ∀ z, some y = some z → slot.Sound nulls z ∧ (slot.dropsNull (slot.encode z) = true → nulls = true) := by
  rintro _ ⟨⟩
  exact ⟨hy, hd⟩

theorem sound_given_of_isClosed (h : slot.isClosed = true) {o : Option slot.Value} :
    ∀ y, o = some y → slot.Sound nulls y ∧ (slot.dropsNull (slot.encode y) = true → nulls = true) :=
  sound_given_of_forall h (slot.sound_of_isClosed h)

theorem dropsNull_free_iff {v : Json} : Slot.free.dropsNull v = true ↔ v = .null := by
  cases v <;> simp [dropsNull]

/-- What is asked of free JSON in an optional field holds of data. -/
theorem sound_free_of_isData {v : Json} (h : v.IsData nulls) :
    Slot.free.Sound nulls v ∧ (Slot.free.dropsNull (Slot.free.encode v) = true → nulls = true) :=
  ⟨h.1, fun hd => h.2 (dropsNull_free_iff.mp hd)⟩

end Slot

/-! ### Contents -/

namespace Content

variable {α : Type} [Content α] {nulls : Bool} {x : α}

/-- Values are written one by one. -/
theorem sorted_arr_encode {xs : List α} :
    (Json.arr ((packMany xs).map (schema α).encode)).sorted = .arr (xs.map toJson) := by
  rw [Json.sorted_arr, packMany, List.map_map, List.map_map]
  rfl

/-- What the value has in free JSON and in ids is as its interface wants it. -/
def Sound (nulls : Bool) (x : α) : Prop := (schema α).Sound nulls (pack x)

/-- The check finds nothing in a sound value that is written, and it reads back. -/
theorem read_toJson_of_sound (h : Sound nulls x) :
    fault? α (toJson x) = none ∧ (nulls = false → read α (toJson x) = .ok x) := by
  obtain ⟨hc, hd⟩ := (schema α).conforms_encode wellFormed (pack x) h
  exact ⟨fault?_eq_none_iff.mpr hc, fun hn => read_eq_ok_iff.mpr ⟨hc, hd hn⟩⟩

end Content

end LanguageServer
