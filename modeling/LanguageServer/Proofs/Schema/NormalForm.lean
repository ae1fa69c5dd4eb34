import LanguageServer.Proofs.Json.Ordered
import LanguageServer.Proofs.Schema.Reading

/-! Normal forms. What is left of a value once it was read and written again: at every level that a schema
    types, the members that no field speaks of are gone, a free field that holds null is gone, a field that
    stands for null when absent is there, and an item that may stand for an array of items is one. Free JSON
    stays as it is. A value in order that conforms is written in normal form (`Content.toJson_read`), the
    normal form reads as the same value, and so it is its own normal form. -/

namespace LanguageServer

/-- An array with every item changed; any other value as it is. -/
def Json.mapItems (f : Json → Json) : Json → Json
  | .arr items => .arr (items.map f)
  | v => v

/-- The members with null under every key of a list that is not there. -/
def Json.Members.withNulls (keys : List String) (members : Json.Members) : Json.Members :=
  keys.foldl (fun members key => if members.has key then members else members.insert key .null) members

/-- The keys of the fields that stand for null when they are absent. -/
def Fields.nullKeys : Fields → List String
  | .nil => []
  | .cons key _ .nullIfAbsent _ rest => key :: rest.nullKeys
  | .cons _ _ _ _ rest => rest.nullKeys
  | .version rest => rest.nullKeys
  | .outcome _ _ _ rest => rest.nullKeys
  | .without _ rest => rest.nullKeys

mutual

/-- The normal form of a value under a schema. -/
def Schema.normal : Schema → Json → Json
  | .any, v => v
  | .text, v => v
  | .enumeration _ _, v => v
  | .requestId, v => v
  | .record _ fields, v =>
    match v with
    | .obj members =>
      .obj (Json.Members.withNulls fields.nullKeys
        (members.filterMap fun m => (fields.keep m.1 m.2).map (m.1, ·)))
    | v => v
  | .union _ firstKind first _ second, v =>
    if v.kind = firstKind then first.normal v else second.normal v
  | .list _ item, v => v.mapItems item.normal
  | .oneOrMany item, v =>
    match v with
    | .arr items => .arr (items.map item.normal)
    | v => .arr [item.normal v]
  | .anyNumber _ item, v =>
    match v with
    | .null => .arr []
    | .arr items => .arr (items.map item.normal)
    | v => .arr [item.normal v]
  | .nullable item, v =>
    match v with
    | .null => .null
    | v => item.normal v

/-- The normal form of a value in a slot. -/
def Slot.normal : Slot → Json → Json
  | .plain _, v => v
  | .free, v => v
  | .nested schema, v => schema.normal v
  | .many item, v => v.mapItems item.normal
  | .table item, v =>
    match v with
    | .obj members => .obj (members.map fun m => (m.1, m.2.mapItems item.normal))
    | v => v

/-- What is kept of a member with a key: nothing, if no field speaks of the key. -/
def Fields.keep : Fields → String → Json → Option Json
  | .nil, _, _ => none
  | .cons key _ presence slot rest, k, v =>
    if key = k then
      if presence = .optional ∧ slot.dropsNull v then none else some (slot.normal v)
    else rest.keep k v
  | .version rest, k, v => if versionKey = k then some v else rest.keep k v
  | .outcome result error form rest, k, v =>
    if result = k then some v else if error = k then some (form.normal v) else rest.keep k v
  | .without _ rest, k, v => rest.keep k v

end

/-- What the normal form of a record has under a key. -/
def Fields.normalAt (fs : Fields) (members : Json.Members) (k : String) : Option Json :=
  ((members.get? k).bind (fs.keep k)).or (if k ∈ fs.nullKeys then some .null else none)

/-! ### The members of a normal form -/

namespace Json.Members

variable {keys : List String} {members : Members} {k : String}

theorem get?_withNulls :
    get? k (withNulls keys members) = (get? k members).or (if k ∈ keys then some .null else none) := by
  unfold withNulls
  induction keys generalizing members with
  | nil => simp
  | cons key rest ih =>
    rw [List.foldl_cons, ih]
    by_cases hk : key = k
    · subst hk
      unfold has
      cases h : get? key members with
      | none => simp [get?_insert]
      | some v => simp [h]
    · have hm : get? k (if has key members then members else insert key .null members) = get? k members := by
        split
        · rfl
        · rw [get?_insert, if_neg hk]
      have hmem : k ∈ key :: rest ↔ k ∈ rest :=
        ⟨fun h => (List.mem_cons.mp h).resolve_left fun e => hk e.symm, List.mem_cons_of_mem _⟩
      rw [hm]
      simp only [hmem]

theorem rising_withNulls (h : Rising members) : Rising (withNulls keys members) := by
  unfold withNulls
  induction keys generalizing members with
  | nil => exact h
  | cons key rest ih =>
    rw [List.foldl_cons]
    refine ih ?_
    split
    · exact h
    · exact rising_insert h

end Json.Members

namespace Fields

variable {fs rest : Fields} {members : Json.Members} {k : String} {v : Json}

theorem nullKeys_subset_keys : (fs : Fields) → fs.nullKeys ⊆ fs.keys
  | .nil => List.Subset.refl _
  | .cons _ _ .nullIfAbsent _ rest => List.cons_subset_cons _ rest.nullKeys_subset_keys
  | .cons _ _ .required _ rest => List.subset_cons_of_subset _ rest.nullKeys_subset_keys
  | .cons _ _ .optional _ rest => List.subset_cons_of_subset _ rest.nullKeys_subset_keys
  | .version rest => List.subset_cons_of_subset _ rest.nullKeys_subset_keys
  | .outcome _ _ _ rest =>
    List.subset_cons_of_subset _ (List.subset_cons_of_subset _ rest.nullKeys_subset_keys)
  | .without _ rest => List.subset_cons_of_subset _ rest.nullKeys_subset_keys

theorem keep_eq_none : (fs : Fields) → k ∉ fs.keys → fs.keep k v = none
  | .nil, _ => rfl
  | .cons key _ _ _ rest, h => by
    simp only [keys, List.mem_cons, not_or] at h
    rw [keep, if_neg (fun e => h.1 e.symm), rest.keep_eq_none h.2]
  | .version rest, h => by
    simp only [keys, List.mem_cons, not_or] at h
    rw [keep, if_neg (fun e => h.1 e.symm), rest.keep_eq_none h.2]
  | .outcome _ _ _ rest, h => by
    simp only [keys, List.mem_cons, not_or] at h
    rw [keep, if_neg (fun e => h.1 e.symm), if_neg (fun e => h.2.1 e.symm), rest.keep_eq_none h.2.2]
  | .without _ rest, h => by
    simp only [keys, List.mem_cons, not_or] at h
    rw [keep, rest.keep_eq_none h.2]

theorem normalAt_eq_none (h : k ∉ fs.keys) : fs.normalAt members k = none := by
  have hn : k ∉ fs.nullKeys := fun hk => h (fs.nullKeys_subset_keys hk)
  have hk : (members.get? k).bind (fs.keep k) = none := by
    cases members.get? k with
    | none => rfl
    | some v => exact fs.keep_eq_none h
  rw [normalAt, hk, if_neg hn]
  rfl

/-- The normal form of a record has under each key what is kept of the member there. -/
theorem get?_normal (hn : (Json.Members.keys members).Nodup) :
    Json.Members.get? k (Json.Members.withNulls fs.nullKeys
      (members.filterMap fun m => (fs.keep m.1 m.2).map (m.1, ·))) = fs.normalAt members k := by
  rw [Json.Members.get?_withNulls, Json.Members.get?_filterMap hn, normalAt]

variable {key result error : String} {form : Schema} {late : Bool} {presence : Presence} {slot : Slot}

theorem keys_encode_sublist : (fs : Fields) → ∀ x, (Json.Members.keys (fs.encode x)).Sublist fs.keys
  | .nil, _ => List.Sublist.refl _
  | .cons key _ .required _ rest, x => (rest.keys_encode_sublist x.2).cons_cons key
  | .cons key _ .nullIfAbsent _ rest, x => (rest.keys_encode_sublist x.2).cons_cons key
  | .cons key _ .optional _ rest, (none, y) => (rest.keys_encode_sublist y).cons key
  | .cons key _ .optional _ rest, (some _, y) => (rest.keys_encode_sublist y).cons_cons key
  | .version rest, x => (rest.keys_encode_sublist x).cons_cons versionKey
  | .outcome result error _ rest, (none, y) => ((rest.keys_encode_sublist y).cons error).cons result
  | .outcome result error _ rest, (some (.inl _), y) =>
    ((rest.keys_encode_sublist y).cons error).cons_cons result
  | .outcome result error _ rest, (some (.inr _), y) =>
    ((rest.keys_encode_sublist y).cons_cons error).cons result
  | .without key rest, x => (rest.keys_encode_sublist x).cons key

theorem normalAt_cons_of_ne (h : key ≠ k) :
    (cons key late presence slot rest).normalAt members k = rest.normalAt members k := by
  have hn : k ∈ (cons key late presence slot rest).nullKeys ↔ k ∈ rest.nullKeys := by
    cases presence <;> simp [nullKeys, Ne.symm h]
  have hk : (cons key late presence slot rest).keep k = rest.keep k := by
    funext v
    rw [keep, if_neg h]
  rw [normalAt, hk, normalAt]
  simp only [hn]

theorem normalAt_version_of_ne (h : versionKey ≠ k) :
    (version rest).normalAt members k = rest.normalAt members k := by
  have hk : (version rest).keep k = rest.keep k := by
    funext v
    rw [keep, if_neg h]
  rw [normalAt, hk, normalAt, nullKeys]

theorem normalAt_outcome_of_ne (hr : result ≠ k) (he : error ≠ k) :
    (outcome result error form rest).normalAt members k = rest.normalAt members k := by
  have hk : (outcome result error form rest).keep k = rest.keep k := by
    funext v
    rw [keep, if_neg hr, if_neg he]
  rw [normalAt, hk, normalAt, nullKeys]

theorem normalAt_without : (without key rest).normalAt members k = rest.normalAt members k := by
  have hk : (without key rest).keep k = rest.keep k := by
    funext v
    rw [keep]
  rw [normalAt, hk, normalAt, nullKeys]

/-- The first field alone speaks of its key. -/
theorem normalAt_cons_self (h : key ∉ rest.keys) :
    (cons key late presence slot rest).normalAt members key =
      match members.get? key with
      | some v => if presence = .optional ∧ slot.dropsNull v then none else some (slot.normal v)
      | none => if presence = .nullIfAbsent then some .null else none := by
  have hn : key ∉ rest.nullKeys := fun hk => h (rest.nullKeys_subset_keys hk)
  rw [normalAt]
  cases members.get? key with
  | none => cases presence <;> simp [nullKeys, hn]
  | some v => cases presence <;> simp [nullKeys, keep, hn]

theorem normalAt_version_self (h : versionKey ∉ rest.keys) :
    (version rest).normalAt members versionKey = members.get? versionKey := by
  have hn : versionKey ∉ rest.nullKeys := fun hk => h (rest.nullKeys_subset_keys hk)
  rw [normalAt]
  cases members.get? versionKey <;> simp [nullKeys, keep, hn]

theorem normalAt_outcome_result (h : result ∉ rest.keys) :
    (outcome result error form rest).normalAt members result = members.get? result := by
  have hn : result ∉ rest.nullKeys := fun hk => h (rest.nullKeys_subset_keys hk)
  rw [normalAt]
  cases members.get? result <;> simp [nullKeys, keep, hn]

theorem normalAt_outcome_error (hne : result ≠ error) (h : error ∉ rest.keys) :
    (outcome result error form rest).normalAt members error = (members.get? error).map form.normal := by
  have hn : error ∉ rest.nullKeys := fun hk => h (rest.nullKeys_subset_keys hk)
  rw [normalAt]
  cases members.get? error <;> simp [nullKeys, keep, hne, hn]

/-! ### Reading one field and then the rest -/

theorem decode?_required (hv : members.get? key = some v) :
    (cons key late .required slot rest).decode? members =
      (slot.decode? v).bind fun x => (rest.decode? members).map (x, ·) := by
  cases h : slot.decode? v <;> cases hr : rest.decode? members <;> simp [decode?, hv, h, hr]

theorem decode?_optional_of_absent
    (hv : members.get? key = none ∨ ∃ v, members.get? key = some v ∧ slot.dropsNull v = true) :
    (cons key late .optional slot rest).decode? members = (rest.decode? members).map (none, ·) := by
  rcases hv with hv | ⟨v, hv, hd⟩
  · cases hr : rest.decode? members <;> simp [decode?, hv, hr]
  · cases hr : rest.decode? members <;> simp [decode?, hv, hd, hr]

theorem decode?_optional (hv : members.get? key = some v) (hd : slot.dropsNull v = false) :
    (cons key late .optional slot rest).decode? members =
      (slot.decode? v).bind fun x => (rest.decode? members).map (some x, ·) := by
  cases h : slot.decode? v <;> cases hr : rest.decode? members <;> simp [decode?, hv, hd, h, hr]

theorem decode?_nullIfAbsent (hv : (members.get? key).getD .null = v) :
    (cons key late .nullIfAbsent slot rest).decode? members =
      (slot.decode? v).bind fun x => (rest.decode? members).map (x, ·) := by
  cases h : slot.decode? v <;> cases hr : rest.decode? members <;> simp [decode?, hv, h, hr]

theorem decode?_outcome_of_absent (hr : members.get? result = none) (he : members.get? error = none) :
    (outcome result error form rest).decode? members = (rest.decode? members).map (none, ·) := by
  cases h : rest.decode? members <;> simp [decode?, hr, he, h]

theorem decode?_outcome_of_result (hr : members.get? result = some v) :
    (outcome result error form rest).decode? members =
      (rest.decode? members).map (some (.inl v), ·) := by
  cases h : rest.decode? members <;> simp [decode?, hr, h]

theorem decode?_outcome_of_error (hr : members.get? result = none) (he : members.get? error = some v) :
    (outcome result error form rest).decode? members =
      (form.decode? v).bind fun e => (rest.decode? members).map (some (.inr e), ·) := by
  cases h : form.decode? v <;> cases h' : rest.decode? members <;> simp [decode?, hr, he, h, h']

end Fields

theorem Slot.dropsNull_normal {slot : Slot} {v : Json} (h : slot.dropsNull v = false) :
    slot.dropsNull (slot.normal v) = false := by
  cases slot with
  | free => exact h
  | _ => rfl

theorem Slot.normal_null {slot : Slot} (h : Presence.nullIfAbsent.suits slot = true) :
    slot.normal .null = .null := by
  cases slot with
  | plain kind => rfl
  | _ => cases h

namespace Schema

variable {item : Schema} {v : Json}

theorem normal_nullable (h : v ≠ .null) : (nullable item).normal v = item.normal v := by
  cases v with
  | null => exact absurd rfl h
  | _ => rfl

theorem decode?_nullable (h : v ≠ .null) :
    (nullable item).decode? v = (item.decode? v).map some := by
  cases v with
  | null => exact absurd rfl h
  | _ => rfl

end Schema

end LanguageServer
