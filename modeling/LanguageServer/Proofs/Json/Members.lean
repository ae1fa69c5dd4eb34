import LanguageServer.Json.Value

/-! The members of an object by their keys. A look-up finds the first member with a key; putting a member in
    its place changes what is found under its key alone and keeps the keys rising, and members with rising
    keys are known by what is found under each key (`ext_of_rising`). -/

namespace LanguageServer.Json.Members

variable {a b members : Members} {k key : String} {v w : Json}

/-- The keys, in order. -/
def keys (members : Members) : List String := members.map (·.1)

/-! ### Finding a member -/

theorem get?_cons_self : get? key ((key, v) :: members) = some v := by
  rw [get?, if_pos rfl]

theorem get?_cons_of_ne (h : key ≠ k) : get? k ((key, v) :: members) = get? k members := by
  rw [get?, if_neg h]

theorem mem_of_get? (h : get? k members = some v) : (k, v) ∈ members := by
  induction members with
  | nil => simp [get?] at h
  | cons m rest ih =>
    obtain ⟨l, w⟩ := m
    rw [get?] at h
    split at h
    · rename_i hl
      cases hl
      cases h
      exact List.mem_cons_self
    · exact List.mem_cons_of_mem _ (ih h)

theorem get?_eq_none_iff : get? k members = none ↔ k ∉ keys members := by
  induction members with
  | nil => simp [get?, keys]
  | cons m rest ih =>
    obtain ⟨l, w⟩ := m
    simp only [keys, List.map_cons, List.mem_cons, not_or] at ih ⊢
    rw [get?]
    split
    · rename_i hl
      simp [hl]
    · rename_i hl
      rw [ih]
      exact ⟨fun h => ⟨fun e => hl e.symm, h⟩, fun h => h.2⟩

theorem get?_of_mem (hn : (keys members).Nodup) (h : (k, v) ∈ members) : get? k members = some v := by
  induction members with
  | nil => cases h
  | cons m rest ih =>
    obtain ⟨l, w⟩ := m
    simp only [keys, List.map_cons, List.nodup_cons] at hn
    rw [get?]
    rcases List.mem_cons.mp h with he | h
    · cases he
      rw [if_pos rfl]
    · have hne : l ≠ k := fun e => hn.1 (e ▸ List.mem_map_of_mem h)
      rw [if_neg hne]
      exact ih hn.2 h

theorem get?_eq_some_iff (hn : (keys members).Nodup) : get? k members = some v ↔ (k, v) ∈ members :=
  ⟨mem_of_get?, get?_of_mem hn⟩

theorem get?_map {f : Json → Json} :
    get? k (members.map fun m => (m.1, f m.2)) = (get? k members).map f := by
  induction members with
  | nil => rfl
  | cons m rest ih =>
    rw [List.map_cons, get?, ih, get?]
    split <;> rfl

/-- What is kept of the members is kept of what is found, for no key comes twice. -/
theorem get?_filterMap {f : String → Json → Option Json} (hn : (keys members).Nodup) :
    get? k (members.filterMap fun m => (f m.1 m.2).map (m.1, ·)) = (get? k members).bind (f k) := by
  induction members with
  | nil => rfl
  | cons m rest ih =>
    obtain ⟨l, w⟩ := m
    simp only [keys, List.map_cons, List.nodup_cons] at hn
    rw [List.filterMap_cons, get?]
    have ih := ih hn.2
    by_cases hl : l = k
    · subst hl
      have hr : get? l rest = none := get?_eq_none_iff.mpr hn.1
      rw [hr] at ih
      cases hf : f l w with
      | none => simpa [hf] using ih
      | some u => simp [hf, get?]
    · rw [if_neg hl, ← ih]
      cases hf : f l w with
      | none => rfl
      | some u => simp [get?, hl]

/-! ### Rising keys -/

theorem nodup_of_rising (h : Rising members) : (keys members).Nodup := by
  rw [keys, List.Nodup, List.pairwise_map]
  exact h.imp String.ne_of_lt

/-- Pairs with rising keys are equal if there are the same of them. -/
theorem eq_of_rising {α : Type} {a b : List (String × α)} (ha : a.Pairwise fun m n => m.1 < n.1)
    (hb : b.Pairwise fun m n => m.1 < n.1) (h : ∀ m, m ∈ a ↔ m ∈ b) : a = b := by
  have hnodup : ∀ l : List (String × α), (l.Pairwise fun m n => m.1 < n.1) → l.Nodup := fun l hl =>
    List.Pairwise.imp (fun hlt he => String.ne_of_lt hlt (congrArg Prod.fst he)) hl
  have hperm : a.Perm b := (List.perm_ext_iff_of_nodup (hnodup a ha) (hnodup b hb)).mpr h
  exact hperm.eq_of_pairwise (fun m n _ _ hmn hnm => absurd hnm (String.lt_asymm hmn)) ha hb

/-- Members with rising keys are equal if the same is found under each key. -/
theorem ext_of_rising (ha : Rising a) (hb : Rising b) (h : ∀ k, get? k a = get? k b) : a = b := by
  refine eq_of_rising ha hb ?_
  rintro ⟨k, v⟩
  rw [← get?_eq_some_iff (nodup_of_rising ha), ← get?_eq_some_iff (nodup_of_rising hb), h]

theorem rising_map {f : Json → Json} (h : Rising members) : Rising (members.map fun m => (m.1, f m.2)) := by
  rw [Rising, List.pairwise_map]
  exact h

theorem rising_filterMap {f : String → Json → Option Json} (h : Rising members) :
    Rising (members.filterMap fun m => (f m.1 m.2).map (m.1, ·)) := by
  refine List.Pairwise.filterMap _ (fun m n hmn m' hm' n' hn' => ?_) h
  obtain ⟨_, -, rfl⟩ := Option.map_eq_some_iff.mp hm'
  obtain ⟨_, -, rfl⟩ := Option.map_eq_some_iff.mp hn'
  exact hmn

/-! ### Putting a member in its place -/

theorem get?_insert : get? k (insert key v members) = if key = k then some v else get? k members := by
  induction members with
  | nil => rfl
  | cons m rest ih =>
    obtain ⟨l, w⟩ := m
    rw [insert]
    split
    · rw [get?]
    · split
      · rename_i hl
        rw [get?, get?, hl]
        split <;> rfl
      · rename_i hl
        rw [get?, get?, ih]
        by_cases hk : l = k
        · have hne : key ≠ k := fun e => hl (hk.trans e.symm)
          rw [if_pos hk, if_neg hne, if_pos hk]
        · rw [if_neg hk, if_neg hk]

theorem mem_insert {m : String × Json} (h : m ∈ insert key v members) : m = (key, v) ∨ m ∈ members := by
  induction members with
  | nil => exact Or.inl (List.mem_singleton.mp h)
  | cons n rest ih =>
    obtain ⟨l, w⟩ := n
    rw [insert] at h
    split at h
    · exact (List.mem_cons.mp h).imp id id
    · split at h
      · exact (List.mem_cons.mp h).imp id (List.mem_cons_of_mem _)
      · rcases List.mem_cons.mp h with rfl | h
        · exact Or.inr List.mem_cons_self
        · exact (ih h).imp id (List.mem_cons_of_mem _)

theorem rising_insert (h : Rising members) : Rising (insert key v members) := by
  induction members with
  | nil => exact List.pairwise_singleton _ _
  | cons m rest ih =>
    obtain ⟨l, w⟩ := m
    obtain ⟨hl, hr⟩ := List.pairwise_cons.mp h
    rw [insert]
    split
    · rename_i hlt
      refine List.pairwise_cons.mpr ⟨fun n hn => ?_, h⟩
      rcases List.mem_cons.mp hn with rfl | hn
      · exact hlt
      · exact String.lt_trans hlt (hl n hn)
    · rename_i hge
      split
      · rename_i he
        exact List.pairwise_cons.mpr ⟨fun n hn => he ▸ hl n hn, hr⟩
      · rename_i hne
        have hlt : l < key := Std.lt_of_le_of_ne (String.not_lt.mp hge) hne
        refine List.pairwise_cons.mpr ⟨fun n hn => ?_, ih hr⟩
        rcases mem_insert hn with rfl | hn
        · exact hlt
        · exact hl n hn

/-! ### Members in the order of their keys -/

theorem rising_ofList (members : Members) : Rising (ofList members) := by
  suffices step : ∀ sorted, Rising sorted →
      Rising (members.foldl (fun sorted m => insert m.1 m.2 sorted) sorted) from
    step [] List.Pairwise.nil
  induction members with
  | nil => exact fun _ h => h
  | cons m rest ih => exact fun sorted h => ih _ (rising_insert h)

theorem get?_ofList (hn : (keys members).Nodup) : get? k (ofList members) = get? k members := by
  suffices step : ∀ sorted,
      get? k (members.foldl (fun sorted m => insert m.1 m.2 sorted) sorted) =
        (get? k members).or (get? k sorted) by
    rw [ofList, step [], get?, Option.or_none]
  induction members with
  | nil => exact fun sorted => rfl
  | cons m rest ih =>
    obtain ⟨l, w⟩ := m
    simp only [keys, List.map_cons, List.nodup_cons] at hn
    intro sorted
    rw [List.foldl_cons, ih hn.2, get?_insert, get?]
    by_cases hl : l = k
    · subst hl
      have hr : get? l rest = none := get?_eq_none_iff.mpr hn.1
      rw [hr, if_pos rfl, if_pos rfl, Option.none_or, Option.some_or]
    · rw [if_neg hl, if_neg hl]

theorem ofList_of_rising (h : Rising members) : ofList members = members :=
  ext_of_rising (rising_ofList members) h fun _ => get?_ofList (nodup_of_rising h)

end LanguageServer.Json.Members
