import LanguageServer.Json.Value

/-! Reading every item of a list: it succeeds just when every item can be read, and then it gives one value
    for each. Searching a list in which one item was put in. -/

namespace LanguageServer.Many

variable {α β γ : Type} {f : α → Option β} {x : α} {xs : List α} {ys : List β}

theorem mapM_cons_eq_some_iff :
    (x :: xs).mapM f = some ys ↔ ∃ y zs, f x = some y ∧ xs.mapM f = some zs ∧ ys = y :: zs := by
  rw [List.mapM_cons]
  cases f x with
  | none => simp
  | some y =>
    cases xs.mapM f with
    | none => simp
    | some zs => simp [eq_comm]

theorem exists_mapM (h : ∀ x ∈ xs, ∃ y, f x = some y) : ∃ ys, xs.mapM f = some ys := by
  induction xs with
  | nil => exact ⟨[], rfl⟩
  | cons x xs ih =>
    obtain ⟨hx, hxs⟩ := List.forall_mem_cons.mp h
    obtain ⟨y, hy⟩ := hx
    obtain ⟨zs, hzs⟩ := ih hxs
    exact ⟨y :: zs, mapM_cons_eq_some_iff.mpr ⟨y, zs, hy, hzs, rfl⟩⟩

/-- What is made of the values is made of the items, if it is so for each of them. -/
theorem map_of_mapM {g : β → γ} {h : α → γ} (hm : xs.mapM f = some ys)
    (hgh : ∀ x ∈ xs, ∀ y, f x = some y → g y = h x) : ys.map g = xs.map h := by
  induction xs generalizing ys with
  | nil =>
    cases hm
    rfl
  | cons x xs ih =>
    obtain ⟨y, zs, hy, hzs, rfl⟩ := mapM_cons_eq_some_iff.mp hm
    obtain ⟨hx, hxs⟩ := List.forall_mem_cons.mp hgh
    rw [List.map_cons, List.map_cons, hx y hy, ih hzs hxs]

/-- Readers that agree on every item agree on all of them. -/
theorem mapM_congr {g : α → Option β} (h : ∀ x ∈ xs, f x = g x) : xs.mapM f = xs.mapM g := by
  induction xs with
  | nil => rfl
  | cons x xs ih =>
    obtain ⟨hx, hxs⟩ := List.forall_mem_cons.mp h
    rw [List.mapM_cons, List.mapM_cons, hx, ih hxs]

/-- Items that are read alike one by one are read alike together. -/
theorem mapM_map {n : α → α} (h : ∀ x ∈ xs, f (n x) = f x) : (xs.map n).mapM f = xs.mapM f := by
  rw [List.mapM_map]
  exact mapM_congr h

/-- Values that read back one by one read back together. -/
theorem mapM_map_eq_some {g : β → α} (h : ∀ y ∈ ys, f (g y) = some y) : (ys.map g).mapM f = some ys := by
  induction ys with
  | nil => rfl
  | cons y ys ih =>
    obtain ⟨hy, hys⟩ := List.forall_mem_cons.mp h
    exact mapM_cons_eq_some_iff.mpr ⟨y, ys, hy, ih hys, rfl⟩

/-- If nothing was found in any item, what is found in an item that is put in is what is found. -/
theorem findSome?_set {i : Nat} {y : α} {b : β} (h : xs.findSome? f = none) (hx : xs[i]? = some x)
    (hy : f y = some b) : (xs.set i y).findSome? f = some b := by
  induction xs generalizing i with
  | nil => cases hx
  | cons a xs ih =>
    obtain ⟨ha, hxs⟩ := List.forall_mem_cons.mp (List.findSome?_eq_none_iff.mp h)
    cases i with
    | zero => rw [List.set_cons_zero, List.findSome?_cons, hy]
    | succ i =>
      rw [List.set_cons_succ, List.findSome?_cons, ha]
      exact ih (List.findSome?_eq_none_iff.mpr hxs) hx

end LanguageServer.Many
