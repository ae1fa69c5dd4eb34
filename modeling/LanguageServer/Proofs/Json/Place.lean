import LanguageServer.Proofs.Json.Members

/-! Places in a value. A place is the way from a value to one inside of it, by keys of objects and indices
    of arrays. Putting another value there leaves everything beside the way as it is; a way that leads
    nowhere changes nothing. -/

namespace LanguageServer.Json

/-- From an object to the value of a key, or from an array to an item. -/
inductive Step where
  | key (k : String)
  | item (i : Nat)
deriving DecidableEq

namespace Members

variable {k key : String} {v w : Json} {members : Members}

/-- The first member with the key gets another value. -/
def set (key : String) (value : Json) : Members → Members
  | [] => []
  | (k, v) :: rest => if k = key then (k, value) :: rest else (k, v) :: set key value rest

theorem get?_set_of_ne (h : k ≠ key) : get? k (set key w members) = get? k members := by
  induction members with
  | nil => rfl
  | cons m rest ih =>
    rw [set]
    split
    · rename_i hm
      rw [get?_cons_of_ne (hm ▸ h.symm), get?_cons_of_ne (hm ▸ h.symm)]
    · by_cases hk : m.1 = k
      · rw [← hk, get?_cons_self, get?_cons_self]
      · rw [get?_cons_of_ne hk, get?_cons_of_ne hk, ih]

theorem get?_set_self (h : get? key members = some v) : get? key (set key w members) = some w := by
  induction members with
  | nil => cases h
  | cons m rest ih =>
    rw [set]
    split
    · rename_i hm
      rw [hm, get?_cons_self]
    · rename_i hm
      rw [get?_cons_of_ne hm] at h ⊢
      exact ih h

/-- If nothing was found in any member, what is found in a member that is put in is what is found. -/
theorem findSome?_set {β : Type} {f : String × Json → Option β} {b : β} (h : members.findSome? f = none)
    (hx : get? key members = some v) (hw : f (key, w) = some b) :
    (set key w members).findSome? f = some b := by
  induction members with
  | nil => cases hx
  | cons m rest ih =>
    obtain ⟨hm, hrest⟩ := List.forall_mem_cons.mp (List.findSome?_eq_none_iff.mp h)
    rw [set]
    split
    · rename_i hk
      rw [List.findSome?_cons, hk, hw]
    · rename_i hk
      rw [get?_cons_of_ne hk] at hx
      rw [List.findSome?_cons, hm]
      exact ih (List.findSome?_eq_none_iff.mpr hrest) hx

end Members

variable {v w x : Json} {members : Members} {items : List Json} {step : Step} {place : List Step}

/-- The value one step inside. -/
def step? : Json → Step → Option Json
  | .obj members, .key k => Members.get? k members
  | .arr items, .item i => items[i]?
  | _, _ => none

/-- Puts another value one step inside. -/
def putStep : Json → Step → Json → Json
  | .obj members, .key k, w => .obj (Members.set k w members)
  | .arr items, .item i, w => .arr (items.set i w)
  | v, _, _ => v

/-- The value at a place. -/
def at? : Json → List Step → Option Json
  | v, [] => some v
  | v, step :: place => (v.step? step).bind (at? · place)

/-- Puts another value at a place. -/
def put : Json → List Step → Json → Json
  | _, [], w => w
  | v, step :: place, w =>
    match v.step? step with
    | some x => v.putStep step (x.put place w)
    | none => v

theorem at?_cons (h : v.step? step = some x) : v.at? (step :: place) = x.at? place := by
  rw [at?, h, Option.bind_some]

theorem at?_append {rest : List Step} (h : v.at? place = some x) : v.at? (place ++ rest) = x.at? rest := by
  induction place generalizing v with
  | nil =>
    cases h
    rfl
  | cons step place ih =>
    obtain ⟨y, hy, h⟩ := Option.bind_eq_some_iff.mp h
    rw [List.cons_append, at?_cons hy, ih h]

theorem put_cons (h : v.step? step = some x) : v.put (step :: place) w = v.putStep step (x.put place w) := by
  rw [put, h]

theorem step?_putStep (h : v.step? step = some x) : (v.putStep step w).step? step = some w := by
  unfold step? at h
  split at h
  · exact Members.get?_set_self h
  · obtain ⟨hi, -⟩ := List.getElem?_eq_some_iff.mp h
    exact List.getElem?_set_self hi
  · cases h

/-- What is put at a place is found there. -/
theorem at?_put (h : v.at? place = some x) : (v.put place w).at? place = some w := by
  induction place generalizing v with
  | nil => rfl
  | cons step place ih =>
    obtain ⟨y, hy, h⟩ := Option.bind_eq_some_iff.mp h
    rw [put_cons hy, at?_cons (step?_putStep hy), ih h]

end LanguageServer.Json
