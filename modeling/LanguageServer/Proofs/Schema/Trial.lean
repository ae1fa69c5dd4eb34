import LanguageServer.Proofs.Schema.NormalForm
import LanguageServer.Proofs.Schema.Reading

/-! Reading by trial. A value can be read without a look at its JSON type first: the first form of a union
    is tried and then the second, an array of items is tried and then a single item. Such a reader may take
    an array for a record, with the values of the fields one after the other; what it makes of one is left
    open here. Trial and type may lead to different forms, but not on a value that the check of the schema
    accepts, as long as no union has arrays in its second form (`Schema.tried?_of_conforms`). So a reader
    that checks first and then tries reads what `Content.read` reads, and fails as it fails. -/

namespace LanguageServer

/-- Reads an array of items. -/
def Json.items? {β : Type} (f : Json → Option β) : Json → Option (List β)
  | .arr items => items.mapM f
  | _ => none

section

-- What is made of an array in the place of a record.
variable (row? : (fs : Fields) → List Json → Option fs.Value)

mutual

/-- Reads a value of the interface by trial. -/
def Schema.tried? : (s : Schema) → Json → Option s.Value
  | .any, v => Schema.any.decode? v
  | .text, v => Schema.text.decode? v
  | .enumeration name values, v => (Schema.enumeration name values).decode? v
  | .requestId, v => Schema.requestId.decode? v
  | .record _ fields, v =>
    match v with
    | .obj members => fields.tried? members
    | .arr items => row? fields items
    | _ => none
  | .union _ _ first _ second, v => ((first.tried? v).map .inl).or ((second.tried? v).map .inr)
  | .list _ item, v => v.items? item.tried?
  | .oneOrMany item, v => (v.items? item.tried?).or ((item.tried? v).map ([·]))
  | .anyNumber _ item, v =>
    match v with
    | .null => some []
    | v => (v.items? item.tried?).or ((item.tried? v).map ([·]))
  | .nullable item, v =>
    match v with
    | .null => some none
    | v => (item.tried? v).map some

/-- Reads the value of a slot by trial. -/
def Slot.tried? : (s : Slot) → Json → Option s.Value
  | .plain kind, v => kind.decode? v
  | .free, v => some v
  | .nested schema, v => schema.tried? v
  | .many item, v => v.items? item.tried?
  | .table item, v =>
    match v with
    | .obj members => members.mapM fun m => (m.2.items? item.tried?).map (m.1, ·)
    | _ => none

/-- Reads the values of a record's fields by trial. -/
def Fields.tried? : (fs : Fields) → Json.Members → Option fs.Value
  | .nil, _ => some ()
  | .cons key _ .required slot rest, members => do
    let v ← members.get? key
    return (← slot.tried? v, ← rest.tried? members)
  | .cons key _ .optional slot rest, members => do
    let first ←
      match members.get? key with
      | none => some none
      | some v => if slot.dropsNull v then some none else (slot.tried? v).map some
    return (first, ← rest.tried? members)
  | .cons key _ .nullIfAbsent slot rest, members => do
    let v := (members.get? key).getD .null
    return (← slot.tried? v, ← rest.tried? members)
  | .version rest, members => rest.tried? members
  | .outcome result error form rest, members => do
    let first ←
      match members.get? result, members.get? error with
      | none, none => some none
      | some v, _ => some (some (.inl v))
      | none, some v => (form.tried? v).map fun e => some (.inr e)
    return (first, ← rest.tried? members)
  | .without _ rest, members => rest.tried? members

end

end

mutual

/-- No union in the schema has arrays in its second form. -/
def Schema.isTriable : Schema → Bool
  | .any => true
  | .text => true
  | .enumeration _ _ => true
  | .requestId => true
  | .record _ fields => fields.isTriable
  | .union _ _ first secondKind second => decide (secondKind ≠ .array) && first.isTriable && second.isTriable
  | .list _ item => item.isTriable
  | .oneOrMany item => item.isTriable
  | .anyNumber _ item => item.isTriable
  | .nullable item => item.isTriable

/-- No union in the slot has arrays in its second form. -/
def Slot.isTriable : Slot → Bool
  | .plain _ => true
  | .free => true
  | .nested schema => schema.isTriable
  | .many item => item.isTriable
  | .table item => item.isTriable

/-- No union in the fields has arrays in its second form. -/
def Fields.isTriable : Fields → Bool
  | .nil => true
  | .cons _ _ _ slot rest => slot.isTriable && rest.isTriable
  | .version rest => rest.isTriable
  | .outcome _ _ form rest => form.isTriable && rest.isTriable
  | .without _ rest => rest.isTriable

end

variable {row? : (fs : Fields) → List Json → Option fs.Value} {item : Schema} {items : List Json} {v : Json}

/-! ### Which form is tried with success -/

theorem Json.kind_of_items? {β : Type} {f : Json → Option β} {xs : List β} (h : v.items? f = some xs) :
    v.kind = .array := by
  cases v with
  | arr items => rfl
  | _ => cases h

theorem Schema.tried?_anyNumber {name : String} (h : v ≠ .null) :
    (anyNumber name item).tried? row? v = (oneOrMany item).tried? row? v := by
  cases v with
  | null => exact absurd rfl h
  | _ => rfl

theorem Schema.tried?_nullable (h : v ≠ .null) :
    (nullable item).tried? row? v = (item.tried? row? v).map some := by
  cases v with
  | null => exact absurd rfl h
  | _ => rfl

/-- What an array of items, or else an item, is read from. -/
theorem Schema.kind_of_tried?_oneOrMany {x : List item.Value} (h : (oneOrMany item).tried? row? v = some x) :
    v.kind = .array ∨ ∃ y, item.tried? row? v = some y := by
  rcases Option.or_eq_some_iff.mp h with h | ⟨-, h⟩
  · exact Or.inl (Json.kind_of_items? h)
  · obtain ⟨y, hy, -⟩ := Option.map_eq_some_iff.mp h
    exact Or.inr ⟨y, hy⟩

/-- What is tried with success is of a JSON type of the interface, or else it is an array. -/
theorem Schema.kind_of_tried? :
    (s : Schema) → ∀ v x, s.tried? row? v = some x → v.kind ∈ s.kinds ∨ v.kind = .array
  | .any, v, _, _ => Or.inl (by cases v <;> simp [kinds, Json.kind])
  | .text, v, _, h => by
    cases v with
    | str s => exact Or.inl (List.mem_singleton_self _)
    | _ => cases h
  | .enumeration _ values, v, _, h => by
    cases v with
    | num n => exact Or.inl (List.mem_singleton_self _)
    | _ => cases h
  | .requestId, v, _, h => by
    cases v with
    | num n => exact Or.inl List.mem_cons_self
    | str s => exact Or.inl (List.mem_cons_of_mem _ (List.mem_singleton_self _))
    | _ => cases h
  | .record _ _, v, _, h => by
    cases v with
    | obj members => exact Or.inl (List.mem_singleton_self _)
    | arr items => exact Or.inr rfl
    | _ => cases h
  | .union _ _ first _ second, v, _, h => by
    rcases Option.or_eq_some_iff.mp h with h | ⟨-, h⟩
    · obtain ⟨x, hx, -⟩ := Option.map_eq_some_iff.mp h
      exact (first.kind_of_tried? v x hx).imp_left (List.mem_append_left _)
    · obtain ⟨x, hx, -⟩ := Option.map_eq_some_iff.mp h
      exact (second.kind_of_tried? v x hx).imp_left (List.mem_append_right _)
  | .list _ _, _, _, h => Or.inr (Json.kind_of_items? h)
  | .oneOrMany item, v, _, h => by
    rcases Schema.kind_of_tried?_oneOrMany h with h | ⟨y, hy⟩
    · exact Or.inr h
    · exact (item.kind_of_tried? v y hy).imp_left (List.mem_cons_of_mem _)
  | .anyNumber _ item, v, _, h => by
    by_cases hn : v = .null
    · exact Or.inl (hn ▸ List.mem_cons_self)
    · rw [Schema.tried?_anyNumber hn] at h
      rcases Schema.kind_of_tried?_oneOrMany h with h | ⟨y, hy⟩
      · exact Or.inr h
      · exact (item.kind_of_tried? v y hy).imp_left fun hk => List.mem_cons_of_mem _ (List.mem_cons_of_mem _ hk)
  | .nullable item, v, _, h => by
    by_cases hn : v = .null
    · exact Or.inl (hn ▸ List.mem_cons_self)
    · rw [Schema.tried?_nullable hn] at h
      obtain ⟨y, hy, -⟩ := Option.map_eq_some_iff.mp h
      exact (item.kind_of_tried? v y hy).imp_left (List.mem_cons_of_mem _)

/-! ### Trial against type -/

theorem Schema.decode?_anyNumber {name : String} (h : v ≠ .null) :
    (anyNumber name item).decode? v = (oneOrMany item).decode? v := by
  cases v with
  | null => exact absurd rfl h
  | _ => rfl

/-- An array of items is tried first, and an item is not tried as an array of items. -/
theorem Schema.tried?_oneOrMany (hk : item.kinds.contains .array = false)
    (hd : ∀ x, item.Conforms x → ∃ y, item.decode? x = some y)
    (ht : ∀ x, item.Conforms x → item.tried? row? x = item.decode? x)
    (h : item.Conforms v ∨ v.IsArrayOf item.Conforms) :
    (oneOrMany item).tried? row? v = (oneOrMany item).decode? v := by
  rcases h with h | ⟨items, rfl, h⟩
  · cases v with
    | arr items => exact absurd h (Schema.not_conforms_arr hk)
    | _ => exact congrArg (Option.map ([·])) (ht _ h)
  · obtain ⟨xs, hxs⟩ := Many.exists_mapM fun x hx => hd x (h x hx)
    have hitems : items.mapM (item.tried? row?) = some xs :=
      (Many.mapM_congr fun x hx => ht x (h x hx)).trans hxs
    rw [tried?, Json.items?, hitems]
    exact hxs.symm

mutual

/-- A value that conforms is read by trial as it is read by its type. -/
theorem Schema.tried?_of_conforms :
    (s : Schema) → s.isWellFormed = true → s.isTriable = true → ∀ v, s.Conforms v →
      s.tried? row? v = s.decode? v
  | .any, _, _, _, _ => rfl
  | .text, _, _, _, _ => rfl
  | .enumeration _ _, _, _, _, _ => rfl
  | .requestId, _, _, _, _ => rfl
  | .record _ fields, wf, tr, _, ⟨members, rfl, h⟩ => by
    simp only [Schema.isWellFormed, Bool.and_eq_true] at wf
    exact fields.tried?_of_conforms wf.2 tr members h
  | .union _ firstKind first secondKind second, wf, tr, v, h => by
    simp only [Schema.isWellFormed, Schema.isTriable, Bool.and_eq_true, decide_eq_true_eq] at wf tr
    obtain ⟨⟨⟨hk₁, hk₂, hne⟩, wf₁⟩, wf₂⟩ := wf
    obtain ⟨⟨ha, tr₁⟩, tr₂⟩ := tr
    rw [Schema.tried?, Schema.decode?]
    rcases h with h | h
    · obtain ⟨x, hx⟩ := first.exists_decode?_of_conforms wf₁ v h
      rw [if_pos (Schema.kind_of_conforms hk₁ h), first.tried?_of_conforms wf₁ tr₁ v h, hx]
      rfl
    · have hv := Schema.kind_of_conforms hk₂ h
      -- The first form is tried in vain: the value is of the JSON type of the second, which is not array.
      have hfirst : first.tried? row? v = none := by
        refine Option.eq_none_iff_forall_not_mem.mpr fun x hx => ?_
        rcases first.kind_of_tried? v x hx with hmem | harr
        · rw [hk₁, hv] at hmem
          exact hne (List.mem_singleton.mp hmem).symm
        · exact ha (hv.symm.trans harr)
      rw [if_neg (hv ▸ hne.symm), if_pos hv, hfirst, second.tried?_of_conforms wf₂ tr₂ v h]
      rfl
  | .list _ item, wf, tr, v, h => by
    obtain ⟨items, rfl, h⟩ := h
    exact Many.mapM_congr fun x hx => item.tried?_of_conforms wf tr x (h x hx)
  | .oneOrMany item, wf, tr, v, h => by
    simp only [Schema.isWellFormed, Bool.and_eq_true, Bool.not_eq_true'] at wf
    exact Schema.tried?_oneOrMany wf.1 (item.exists_decode?_of_conforms wf.2)
      (item.tried?_of_conforms wf.2 tr) h
  | .anyNumber _ item, wf, tr, v, h => by
    simp only [Schema.isWellFormed, Bool.and_eq_true, decide_eq_true_eq] at wf
    by_cases hn : v = .null
    · rw [hn]
      rfl
    · have hk : item.kinds.contains .array = false := by
        rw [wf.1]
        rfl
      rw [Schema.tried?_anyNumber hn, Schema.decode?_anyNumber hn]
      exact Schema.tried?_oneOrMany hk (item.exists_decode?_of_conforms wf.2)
        (item.tried?_of_conforms wf.2 tr) (h.resolve_left hn)
  | .nullable item, wf, tr, v, h => by
    by_cases hn : v = .null
    · rw [hn]
      rfl
    · rw [Schema.tried?_nullable hn, Schema.decode?_nullable hn,
        item.tried?_of_conforms wf tr v (h.resolve_left hn)]

/-- A value that conforms to a slot is read by trial as it is read by its type. -/
theorem Slot.tried?_of_conforms :
    (s : Slot) → s.isWellFormed = true → s.isTriable = true → ∀ v, s.Conforms v →
      s.tried? row? v = s.decode? v
  | .plain _, _, _, _, _ => rfl
  | .free, _, _, _, _ => rfl
  | .nested schema, wf, tr, v, h => schema.tried?_of_conforms wf tr v h
  | .many item, wf, tr, v, h => by
    obtain ⟨items, rfl, h⟩ := h
    exact Many.mapM_congr fun x hx => item.tried?_of_conforms wf tr x (h x hx)
  | .table item, wf, tr, v, h => by
    obtain ⟨members, rfl, h⟩ := h
    refine Many.mapM_congr fun m hm => ?_
    obtain ⟨-, items, hi, h⟩ := h m hm
    rw [hi]
    exact congrArg (Option.map (m.1, ·)) (Many.mapM_congr fun x hx => item.tried?_of_conforms wf tr x (h x hx))

/-- Members that conform to the fields are read by trial as they are read by their types. -/
theorem Fields.tried?_of_conforms :
    (fs : Fields) → fs.isWellFormed = true → fs.isTriable = true → ∀ members, fs.Conforms members →
      fs.tried? row? members = fs.decode? members
  | .nil, _, _, _, _ => rfl
  | .cons key late .required slot rest, wf, tr, members, ⟨⟨v, hv, h⟩, hr⟩ => by
    simp only [Fields.isWellFormed, Fields.isTriable, Bool.and_eq_true] at wf tr
    rw [Fields.tried?, Fields.decode?, hv, rest.tried?_of_conforms wf.2 tr.2 members hr]
    simp only [Option.bind_eq_bind, Option.bind_some, slot.tried?_of_conforms wf.1.2 tr.1 v h]
  | .cons key late .optional slot rest, wf, tr, members, ⟨h, hr⟩ => by
    simp only [Fields.isWellFormed, Fields.isTriable, Bool.and_eq_true] at wf tr
    rw [Fields.tried?, Fields.decode?, rest.tried?_of_conforms wf.2 tr.2 members hr]
    cases hv : members.get? key with
    | none => rfl
    | some v =>
      have hc := (Slot.conforms_iff_of_suits wf.1.1).mpr (h v hv)
      simp only [slot.tried?_of_conforms wf.1.2 tr.1 v hc]
  | .cons key late .nullIfAbsent slot rest, wf, tr, members, ⟨h, hr⟩ => by
    simp only [Fields.isWellFormed, Fields.isTriable, Bool.and_eq_true] at wf tr
    have hv : slot.Conforms ((members.get? key).getD .null) := by
      cases hv : members.get? key with
      | none => exact Slot.conforms_null_of_suits wf.1.1
      | some v => exact h v hv
    rw [Fields.tried?, Fields.decode?, rest.tried?_of_conforms wf.2 tr.2 members hr]
    simp only [slot.tried?_of_conforms wf.1.2 tr.1 _ hv]
  | .version rest, wf, tr, members, ⟨_, hr⟩ => rest.tried?_of_conforms wf tr members hr
  | .outcome result error form rest, wf, tr, members, ⟨he, _, _, hr⟩ => by
    simp only [Fields.isWellFormed, Fields.isTriable, Bool.and_eq_true] at wf tr
    rw [Fields.tried?, Fields.decode?, rest.tried?_of_conforms wf.2 tr.2 members hr]
    cases members.get? result with
    | some v => rfl
    | none =>
      cases hv : members.get? error with
      | none => rfl
      | some e => simp only [form.tried?_of_conforms wf.1 tr.1 e (he e hv)]
  | .without _ rest, wf, tr, members, ⟨_, hr⟩ => rest.tried?_of_conforms wf tr members hr

end

namespace Content

variable {α : Type} [Content α]

/-- Checks a value of the interface and then reads it by trial. -/
def readByTrial (row? : (fs : Fields) → List Json → Option fs.Value) (α : Type) [Content α] (v : Json) :
    Except Fault α :=
  match fault? α v, (schema α).tried? row? v with
  | some fault, _ => .error fault
  | none, some x => .ok (unpack x)
  | none, none => .error (.invalid (name α) (.wrongType []))

/-- Checking and then trying is reading. -/
theorem readByTrial_eq (tr : (schema α).isTriable = true) : readByTrial row? α v = read α v := by
  unfold readByTrial
  cases hf : fault? α v with
  | some fault => exact (read_eq_error_of_fault? hf).symm
  | none =>
    have hc := fault?_eq_none_iff.mp hf
    obtain ⟨y, hy⟩ := (schema α).exists_decode?_of_conforms wellFormed v hc
    rw [(schema α).tried?_of_conforms wellFormed tr v hc, hy]
    exact (read_eq_ok_iff.mpr ⟨hc, by rw [pack_unpack, hy]⟩).symm

end Content

end LanguageServer
