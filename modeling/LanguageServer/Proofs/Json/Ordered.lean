import LanguageServer.Proofs.Json.Members

/-! Values whose members are in order at every level. This is how the values of a program lie: one that was
    read is in order, and so is one that was sorted (`ordered_sorted`). Sorting such a value changes nothing
    (`sorted_of_ordered`). -/

namespace LanguageServer.Json

mutual

/-- At every level the keys go up strictly. -/
def Ordered : Json → Prop
  | .arr items => OrderedItems items
  | .obj members => Members.Rising members ∧ OrderedMembers members
  | _ => True

/-- Every item is in order. -/
def OrderedItems : List Json → Prop
  | [] => True
  | v :: rest => Ordered v ∧ OrderedItems rest

/-- The value of every member is in order. -/
def OrderedMembers : Members → Prop
  | [] => True
  | (_, v) :: rest => Ordered v ∧ OrderedMembers rest

end

variable {v : Json} {items : List Json} {members : Members} {k key : String}

@[simp]
theorem ordered_null : Ordered .null := trivial

@[simp]
theorem ordered_num {n : Number} : Ordered (.num n) := trivial

theorem orderedItems_iff : OrderedItems items ↔ ∀ v ∈ items, Ordered v := by
  induction items with
  | nil => simp [OrderedItems]
  | cons v rest ih => simp [OrderedItems, ih]

theorem orderedMembers_iff : OrderedMembers members ↔ ∀ m ∈ members, Ordered m.2 := by
  induction members with
  | nil => simp [OrderedMembers]
  | cons m rest ih => simp [OrderedMembers, ih]

theorem ordered_arr : Ordered (.arr items) ↔ ∀ v ∈ items, Ordered v := orderedItems_iff

theorem ordered_obj :
    Ordered (.obj members) ↔ Members.Rising members ∧ ∀ m ∈ members, Ordered m.2 := by
  rw [Ordered, orderedMembers_iff]

theorem Ordered.of_get? (h : Ordered (.obj members)) (hv : Members.get? k members = some v) :
    Ordered v :=
  (ordered_obj.mp h).2 _ (Members.mem_of_get? hv)

/-! ### Sorting -/

theorem sortedItems_eq_map : sortedItems items = items.map sorted := by
  induction items with
  | nil => rfl
  | cons v rest ih => rw [sortedItems, List.map_cons, ih]

theorem sortedMembers_eq_map : sortedMembers members = members.map fun m => (m.1, sorted m.2) := by
  induction members with
  | nil => rfl
  | cons m rest ih => rw [sortedMembers, List.map_cons, ih]

theorem sorted_arr : sorted (.arr items) = .arr (items.map sorted) := by
  rw [sorted, sortedItems_eq_map]

@[simp]
theorem kind_sorted : (sorted v).kind = v.kind := by
  cases v <;> rfl

theorem sorted_ne_null (h : v ≠ .null) : v.sorted ≠ .null := by
  intro hs
  cases v with
  | null => exact h rfl
  | _ => cases hs

theorem keys_sortedMembers : Members.keys (sortedMembers members) = Members.keys members := by
  simp [sortedMembers_eq_map, Members.keys, Function.comp_def]

/-- Sorting an object sorts what is found under each of its keys. -/
theorem get?_sorted (hn : (Members.keys members).Nodup) :
    Members.get? k (Members.ofList (sortedMembers members)) = (Members.get? k members).map sorted := by
  rw [Members.get?_ofList (keys_sortedMembers.symm ▸ hn), sortedMembers_eq_map, Members.get?_map]

mutual

/-- A value that is in order is sorted already. -/
theorem sorted_of_ordered : (v : Json) → Ordered v → sorted v = v
  | .null, _ | .bool _, _ | .num _, _ | .str _, _ => rfl
  | .arr items, h => by rw [sorted, sortedItems_of_ordered items h]
  | .obj members, h => by
    rw [sorted, sortedMembers_of_ordered members h.2, Members.ofList_of_rising h.1]

theorem sortedItems_of_ordered : (items : List Json) → OrderedItems items → sortedItems items = items
  | [], _ => rfl
  | v :: rest, h => by rw [sortedItems, sorted_of_ordered v h.1, sortedItems_of_ordered rest h.2]

theorem sortedMembers_of_ordered :
    (members : Members) → OrderedMembers members → sortedMembers members = members
  | [], _ => rfl
  | (k, v) :: rest, h => by
    rw [sortedMembers, sorted_of_ordered v h.1, sortedMembers_of_ordered rest h.2]

end

theorem map_sorted_of_ordered {o : Option Json} (h : ∀ v, o = some v → v.Ordered) : o.map sorted = o := by
  cases o with
  | none => rfl
  | some v => exact congrArg some (sorted_of_ordered v (h v rfl))

/-! ### What keeps a value in order -/

theorem ordered_insert (hm : ∀ m ∈ members, Ordered m.2) (hv : Ordered v) :
    ∀ m ∈ Members.insert key v members, Ordered m.2 := by
  intro m h
  rcases Members.mem_insert h with rfl | h
  · exact hv
  · exact hm m h

theorem ordered_ofList (h : ∀ m ∈ members, Ordered m.2) : ∀ m ∈ Members.ofList members, Ordered m.2 := by
  suffices step : ∀ sorted : Members, (∀ m ∈ sorted, Ordered m.2) →
      ∀ m ∈ members.foldl (fun sorted m => Members.insert m.1 m.2 sorted) sorted, Ordered m.2 from
    step [] (by simp)
  induction members with
  | nil => exact fun _ hs => hs
  | cons m rest ih =>
    intro sorted hs
    exact ih (fun n hn => h n (List.mem_cons_of_mem _ hn)) _
      (ordered_insert hs (h m List.mem_cons_self))

mutual

/-- A sorted value is in order. -/
theorem ordered_sorted : (v : Json) → Ordered (sorted v)
  | .null | .bool _ | .num _ | .str _ => trivial
  | .arr items => by
    rw [sorted, ordered_arr]
    exact ordered_sortedItems items
  | .obj members => by
    rw [sorted, ordered_obj]
    exact ⟨Members.rising_ofList _, ordered_ofList (ordered_sortedMembers members)⟩

theorem ordered_sortedItems : (items : List Json) → ∀ v ∈ sortedItems items, Ordered v
  | [] => by simp [sortedItems]
  | v :: rest => by
    rw [sortedItems, List.forall_mem_cons]
    exact ⟨ordered_sorted v, ordered_sortedItems rest⟩

theorem ordered_sortedMembers : (members : Members) → ∀ m ∈ sortedMembers members, Ordered m.2
  | [] => by simp [sortedMembers]
  | (k, v) :: rest => by
    rw [sortedMembers, List.forall_mem_cons]
    exact ⟨ordered_sorted v, ordered_sortedMembers rest⟩

end

end LanguageServer.Json
