import LanguageServer.Content.Hover
import LanguageServer.Proofs.Schema.Construction
import LanguageServer.Proofs.Schema.Trial

/-! Answers in several forms. The contents of a hover are one marked string or an array of them; a
    definition is null, one location or an array of locations. Whichever form is sent, it is read as the
    array, item by item, and the array is what is written (`read_normalises`). -/

namespace LanguageServer

open Content

variable {members others : Json.Members} {items : List Json} {v w : Json} {fault : Fault}

/-! ### An item or an array of items -/

namespace Content

variable {α β : Type} [Content α] [Content β] {xs : List α}

theorem packMany_injective : Function.Injective (packMany (α := α)) :=
  Function.LeftInverse.injective unpackMany_packMany

theorem packSome_injective : Function.Injective (packSome (α := α)) :=
  Function.LeftInverse.injective unpackSome_packSome

/-- Values in which the same is found, and that are decoded alike, are read alike. -/
theorem read_eq_map {f : β → α} (hf : fault? α v = fault? β w)
    (hd : ∀ y, (schema β).decode? w = some (pack y) → (schema α).decode? v = some (pack (f y))) :
    read α v = (read β w).map f := by
  cases hw : read β w with
  | error fault => exact read_eq_error_iff.mpr (hf.trans (read_eq_error_iff.mp hw))
  | ok y =>
    obtain ⟨hc, hy⟩ := read_eq_ok_iff.mp hw
    exact read_eq_ok_iff.mpr ⟨fault?_eq_none_iff.mp (hf.trans (fault?_eq_none_iff.mpr hc)), hd y hy⟩

/-- An array is read item by item, and the first fault of an item is the fault of the array. -/
theorem read_list : read (List α) (.arr items) = items.mapM (read α) := by
  induction items with
  | nil => rfl
  | cons x items ih =>
    rw [List.mapM_cons, ← ih]
    cases hx : read α x with
    | error fault =>
      have hf : fault? α x = some fault := read_eq_error_iff.mp hx
      refine read_eq_error_iff.mpr ?_
      change (x :: items).findSome? (fault? α) = some fault
      rw [List.findSome?_cons, hf]
    | ok y =>
      obtain ⟨hc, hy⟩ := read_eq_ok_iff.mp hx
      have hn : fault? α x = none := fault?_eq_none_iff.mpr hc
      have hrest : fault? (List α) (.arr (x :: items)) = fault? (List α) (.arr items) := by
        change (x :: items).findSome? (fault? α) = items.findSome? (fault? α)
        rw [List.findSome?_cons, hn]
      have hcons := read_eq_map (f := (y :: ·)) hrest fun ys hys =>
        Many.mapM_cons_eq_some_iff.mpr ⟨pack y, packMany ys, hy, hys, rfl⟩
      rw [hcons]
      cases read (List α) (.arr items) <;> rfl

/-- Reads an array of items, or an item as an array of one. -/
def readMany (α : Type) [Content α] : Json → Except Fault (List α)
  | .arr items => items.mapM (read α)
  | v => (read α v).map ([·])

theorem readMany_singleton (h : v.kind ≠ .array) : readMany α (.arr [v]) = readMany α v := by
  have hv : readMany α v = (read α v).map ([·]) := by
    cases v with
    | arr items => exact absurd rfl h
    | _ => rfl
  rw [hv, readMany, List.mapM_cons]
  cases read α v <;> rfl

theorem readMany_eq_error_iff :
    readMany α v = .error fault ↔ (Schema.oneOrMany (schema α)).fault? v = some fault := by
  have hitem : (read α v).map ([·]) = .error fault ↔ fault? α v = some fault := by
    rw [← read_eq_error_iff]
    cases read α v <;> simp [Except.map]
  cases v with
  | arr items =>
    rw [readMany, ← read_list, read_eq_error_iff]
    rfl
  | _ => exact hitem

theorem readMany_eq_ok_iff :
    readMany α v = .ok xs ↔ (Schema.oneOrMany (schema α)).fault? v = none ∧
      (Schema.oneOrMany (schema α)).decode? v = some (packMany xs) := by
  have hitem : (read α v).map ([·]) = .ok xs ↔
      fault? α v = none ∧ ((schema α).decode? v).map ([·]) = some (packMany xs) := by
    cases hv : read α v with
    | error fault => simp [Except.map, read_eq_error_iff.mp hv]
    | ok x =>
      obtain ⟨hc, hx⟩ := read_eq_ok_iff.mp hv
      have hpack : [pack x] = packMany xs ↔ [x] = xs := packMany_injective.eq_iff (a := [x])
      simp [hx, hpack, Except.map, fault?_eq_none_iff.mpr hc]
  cases v with
  | arr items =>
    rw [readMany, ← read_list, read_eq_ok_iff, ← fault?_eq_none_iff]
    rfl
  | _ => exact hitem

theorem mapM_read_eq_error_iff {o : Option Json} :
    o.mapM (read α) = .error fault ↔ o.bind (fault? α) = some fault := by
  cases o with
  | none => simp [pure, Except.pure]
  | some v =>
    rw [Option.bind_some, ← read_eq_error_iff, Option.mapM_some]
    cases read α v <;> simp [Functor.map, Except.map]

theorem mapM_read_eq_ok_iff {o : Option Json} {x : Option α} :
    o.mapM (read α) = .ok x ↔
      o.bind (fault? α) = none ∧ o.mapM (schema α).decode? = some (packSome x) := by
  cases o with
  | none =>
    have hpack : none = packSome x ↔ none = x := packSome_injective.eq_iff (a := none)
    simp [pure, Except.pure, hpack]
  | some v =>
    rw [Option.mapM_some, Option.mapM_some, Option.bind_some]
    cases hv : read α v with
    | error fault => simp [Functor.map, Except.map, read_eq_error_iff.mp hv]
    | ok y =>
      obtain ⟨hc, hy⟩ := read_eq_ok_iff.mp hv
      have hpack : some (pack y) = packSome x ↔ some y = x := packSome_injective.eq_iff (a := some y)
      simp [Functor.map, Except.map, fault?_eq_none_iff.mpr hc, hy, hpack]

end Content

/-! ### The contents of a hover -/

namespace HoverResult

/-- The fields of a hover. -/
def fields : Fields :=
  .requiredLate "contents" (.nested (.oneOrMany MarkedString.schema)) <|
  .optional "range" (.nested Range.schema) <|
  .nil

theorem earliest_of_late {late early : Option Fault} :
    earliest ((late.map (true, ·)).toList ++ (early.map (false, ·)).toList) = early.or late := by
  cases late <;> cases early <;> rfl

/-- The range is checked first, and then the contents. -/
theorem fault?_eq (h : members.get? "contents" = some v) :
    fault? HoverResult (.obj members) =
      ((members.get? "range").bind (fault? Range)).or ((Schema.oneOrMany MarkedString.schema).fault? v) := by
  have hrecord : fault? HoverResult (.obj members) = earliest (fields.faults "HoverResult" members) := rfl
  rw [hrecord, ← earliest_of_late]
  congr 1
  simp only [fields, Fields.faults, h, Slot.fault?, Option.map_map, List.append_nil]
  cases members.get? "range" <;> rfl

theorem decode?_eq {contents : List MarkedString.schema.Value} {range : Option Range.schema.Value}
    (h : members.get? "contents" = some v)
    (hc : (Schema.oneOrMany MarkedString.schema).decode? v = some contents)
    (hr : (members.get? "range").mapM Range.schema.decode? = some range) :
    (Content.schema HoverResult).decode? (.obj members) = some (contents, range, ()) := by
  have hrecord : (Content.schema HoverResult).decode? (.obj members) = fields.decode? members := rfl
  have hslot : (Slot.nested (.oneOrMany MarkedString.schema)).decode? v = some contents := hc
  have hrest : (Fields.optional "range" (.nested Range.schema) .nil).decode? members = some (range, ()) := by
    cases hv : members.get? "range" with
    | none =>
      rw [hv] at hr
      cases hr
      rw [Fields.decode?_optional_of_absent (Or.inl hv)]
      rfl
    | some r =>
      rw [hv, Option.mapM_some] at hr
      obtain ⟨y, hy, rfl⟩ := Option.map_eq_some_iff.mp hr
      rw [Fields.decode?_optional hv rfl]
      exact congrArg (Option.bind · _) hy
  rw [hrecord]
  exact (Fields.decode?_required h).trans (by rw [hslot, hrest]; rfl)

/-- The contents are read after the range. -/
theorem read_eq (h : members.get? "contents" = some v) :
    read HoverResult (.obj members) = do
      let range ← (members.get? "range").mapM (read Range)
      let contents ← readMany MarkedString v
      return ⟨contents, range⟩ := by
  have hf := fault?_eq h
  cases hr : (members.get? "range").mapM (read Range) with
  | error fault =>
    rw [mapM_read_eq_error_iff.mp hr] at hf
    exact read_eq_error_iff.mpr hf
  | ok range =>
    obtain ⟨hrn, hrd⟩ := mapM_read_eq_ok_iff.mp hr
    rw [hrn, Option.none_or] at hf
    cases hm : readMany MarkedString v with
    | error fault => exact read_eq_error_iff.mpr (hf.trans (readMany_eq_error_iff.mp hm))
    | ok contents =>
      obtain ⟨hn, hd⟩ := readMany_eq_ok_iff.mp hm
      refine read_eq_ok_iff.mpr ⟨fault?_eq_none_iff.mp (hf.trans hn), ?_⟩
      rw [decode?_eq h hd hrd]
      rfl

/-- An object that has contents of a hover among other members. -/
def objectWith (contents : Json) (others : Json.Members) : Json := .obj (others.insert "contents" contents)

theorem read_objectWith :
    read HoverResult (objectWith v others) = do
      let range ← (others.get? "range").mapM (read Range)
      let contents ← readMany MarkedString v
      return ⟨contents, range⟩ := by
  have hc : (others.insert "contents" v).get? "contents" = some v := by
    rw [Json.Members.get?_insert, if_pos rfl]
  have hr : (others.insert "contents" v).get? "range" = others.get? "range" := by
    rw [Json.Members.get?_insert, if_neg (by decide)]
  rw [objectWith, read_eq hc, hr]

/-- The contents are written as an array. -/
theorem toJson_eq (h : HoverResult) :
    ∃ members : Json.Members,
      toJson h = .obj members ∧ members.get? "contents" = some (.arr (h.contents.map toJson)) := by
  refine ⟨Json.Members.ofList (Json.sortedMembers (fields.encode (pack h))), rfl, ?_⟩
  have hn : (Json.Members.keys (fields.encode (pack h))).Nodup :=
    List.Nodup.sublist (fields.keys_encode_sublist _) (by decide)
  have hc : (fields.encode (pack h)).get? "contents" =
      some (.arr ((packMany h.contents).map MarkedString.schema.encode)) := rfl
  calc _ = ((fields.encode (pack h)).get? "contents").map Json.sorted := Json.get?_sorted hn
    _ = some (Json.arr ((packMany h.contents).map MarkedString.schema.encode)).sorted := by rw [hc]; rfl
    _ = some (.arr (h.contents.map toJson)) := congrArg some (sorted_arr_encode (α := MarkedString))

theorem read_toJson (h : HoverResult) : read HoverResult (toJson h) = .ok h :=
  (read_toJson_of_sound (Schema.sound_of_isClosed _ (by decide) _)).2 rfl

end HoverResult

/-! ### The places of a definition -/

namespace DefinitionResult

theorem read_arr : read DefinitionResult (.arr items) = (items.mapM (read Location)).map .mk := by
  rw [← read_list]
  exact read_eq_map rfl fun _ hxs => hxs

theorem read_obj :
    read DefinitionResult (.obj members) = (read Location (.obj members)).map fun x => ⟨[x]⟩ :=
  read_eq_map rfl fun _ hx => congrArg (Option.map ([·])) hx

theorem toJson_eq (d : DefinitionResult) : toJson d = .arr (d.locations.map toJson) :=
  sorted_arr_encode (α := Location)

theorem read_toJson (d : DefinitionResult) : read DefinitionResult (toJson d) = .ok d :=
  (read_toJson_of_sound (Schema.sound_of_isClosed _ (by decide) _)).2 rfl

end DefinitionResult

open HoverResult (objectWith) in
/-- Of every hover and every definition. Contents that are no array are read as an array of one, with the
    same result or the same fault, and an object in a definition likewise; null and an array of nothing are
    the same empty definition. An array is read item by item in order, the range of a hover before its
    contents: two strings are two marked strings, and an array among the items is refused. What is written
    is an array and reads back. A reader that checks first and then tries the forms one after the other
    reads the same, whatever it makes of arrays in the place of records. -/
theorem read_normalises :
    (∀ (v : Json) (others : Json.Members), v.kind ≠ .array →
      read HoverResult (objectWith v others) = read HoverResult (objectWith (.arr [v]) others)) ∧
    (∀ members, read DefinitionResult (.obj members) = read DefinitionResult (.arr [.obj members])) ∧
    (read DefinitionResult .null = .ok ⟨[]⟩ ∧ read DefinitionResult (.arr []) = .ok ⟨[]⟩) ∧
    (∀ items others, read HoverResult (objectWith (.arr items) others) = do
      let range ← (others.get? "range").mapM (read Range)
      let contents ← items.mapM (read MarkedString)
      return ⟨contents, range⟩) ∧
    (∀ items, read DefinitionResult (.arr items) = (items.mapM (read Location)).map .mk) ∧
    (∀ a b, [Json.str a, .str b].mapM (read MarkedString) = .ok [.markdown a, .markdown b]) ∧
    (∀ items, ∃ fault, read MarkedString (.arr items) = .error fault) ∧
    (∀ h : HoverResult, read HoverResult (toJson h) = .ok h ∧ ∃ members : Json.Members,
      toJson h = .obj members ∧ members.get? "contents" = some (.arr (h.contents.map toJson))) ∧
    (∀ d : DefinitionResult, read DefinitionResult (toJson d) = .ok d ∧
      toJson d = .arr (d.locations.map toJson)) ∧
    (∀ row? v, readByTrial row? HoverResult v = read HoverResult v ∧
      readByTrial row? DefinitionResult v = read DefinitionResult v) := by
  refine ⟨?_, ?_, ⟨rfl, rfl⟩, ?_, fun _ => DefinitionResult.read_arr, fun _ _ => rfl, fun _ => ⟨_, rfl⟩,
    ?_, ?_, ?_⟩
  · intro v others h
    rw [HoverResult.read_objectWith, HoverResult.read_objectWith, readMany_singleton h]
  · intro members
    rw [DefinitionResult.read_obj, DefinitionResult.read_arr, List.mapM_cons]
    cases read Location (.obj members) <;> rfl
  · exact fun _ _ => HoverResult.read_objectWith
  · exact fun h => ⟨h.read_toJson, h.toJson_eq⟩
  · exact fun d => ⟨d.read_toJson, d.toJson_eq⟩
  · exact fun row? v => ⟨readByTrial_eq (by decide), readByTrial_eq (by decide)⟩

end LanguageServer
