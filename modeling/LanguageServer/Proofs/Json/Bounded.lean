import LanguageServer.Proofs.Json.Members

/-! How large a value is: the levels of arrays and objects that it has, and the whole numbers in it. A text
    holds no more than `Reader.maxDepth` levels and no whole numbers beyond the words of 64 bits, so these
    are the bounds within which a value that is written can be read again (`Bounded`). They are told of an
    array or an object by its items or members alone. -/

namespace LanguageServer.Json

mutual

/-- The numbers in a value, the first first. -/
def numbers : Json → List Number
  | .num n => [n]
  | .arr items => numbersItems items
  | .obj members => numbersMembers members
  | _ => []

/-- The numbers in items. -/
def numbersItems : List Json → List Number
  | [] => []
  | v :: rest => numbers v ++ numbersItems rest

/-- The numbers in the values of members. -/
def numbersMembers : Members → List Number
  | [] => []
  | (_, v) :: rest => numbers v ++ numbersMembers rest

end

/-- A whole number fits a word of 64 bits, with a sign or without. -/
def Number.Fits : Number → Prop
  | int n => minSigned ≤ n ∧ n ≤ maxUnsigned
  | float _ => True

/-- A whole number. -/
def Number.IsInt (n : Number) : Prop := ∃ i, n = .int i

variable {v : Json} {items : List Json} {members : Members} {n : Number} {levels : Nat} {k : String}

theorem mem_numbers_arr : n ∈ (Json.arr items).numbers ↔ ∃ v ∈ items, n ∈ v.numbers := by
  rw [numbers]
  induction items with
  | nil => simp [numbersItems]
  | cons v rest ih => simp [numbersItems, ih]

theorem mem_numbers_obj : n ∈ (Json.obj members).numbers ↔ ∃ m ∈ members, n ∈ m.2.numbers := by
  rw [numbers]
  induction members with
  | nil => simp [numbersMembers]
  | cons m rest ih => simp [numbersMembers, ih]

theorem depthItems_le : depthItems items ≤ levels ↔ ∀ v ∈ items, v.depth ≤ levels := by
  induction items with
  | nil => simp [depthItems]
  | cons v rest ih => rw [depthItems, Nat.max_le, ih, List.forall_mem_cons]

theorem depthMembers_le : depthMembers members ≤ levels ↔ ∀ m ∈ members, m.2.depth ≤ levels := by
  induction members with
  | nil => simp [depthMembers]
  | cons m rest ih => rw [depthMembers, Nat.max_le, ih, List.forall_mem_cons]

/-- The value has so many levels at most, and its whole numbers fit words of 64 bits. -/
structure Bounded (levels : Nat) (v : Json) : Prop where
  depth : v.depth ≤ levels
  numbers : ∀ n ∈ v.numbers, n.Fits

theorem bounded_null : Bounded levels .null := ⟨Nat.zero_le _, nofun⟩

theorem bounded_bool {b : Bool} : Bounded levels (.bool b) := ⟨Nat.zero_le _, nofun⟩

theorem bounded_str {s : String} : Bounded levels (.str s) := ⟨Nat.zero_le _, nofun⟩

theorem bounded_num : Bounded levels (.num n) ↔ n.Fits := by
  refine ⟨fun h => h.numbers n (List.mem_singleton_self n), fun h => ⟨Nat.zero_le _, fun m hm => ?_⟩⟩
  rw [List.mem_singleton.mp hm]
  exact h

theorem bounded_arr : Bounded (levels + 1) (.arr items) ↔ ∀ v ∈ items, Bounded levels v := by
  constructor
  · intro h v hv
    refine ⟨depthItems_le.mp (Nat.le_of_succ_le_succ h.depth) v hv, fun n hn => ?_⟩
    exact h.numbers n (mem_numbers_arr.mpr ⟨v, hv, hn⟩)
  · intro h
    refine ⟨Nat.succ_le_succ (depthItems_le.mpr fun v hv => (h v hv).depth), fun n hn => ?_⟩
    obtain ⟨v, hv, hn⟩ := mem_numbers_arr.mp hn
    exact (h v hv).numbers n hn

theorem bounded_obj : Bounded (levels + 1) (.obj members) ↔ ∀ m ∈ members, Bounded levels m.2 := by
  constructor
  · intro h m hm
    refine ⟨depthMembers_le.mp (Nat.le_of_succ_le_succ h.depth) m hm, fun n hn => ?_⟩
    exact h.numbers n (mem_numbers_obj.mpr ⟨m, hm, hn⟩)
  · intro h
    refine ⟨Nat.succ_le_succ (depthMembers_le.mpr fun m hm => (h m hm).depth), fun n hn => ?_⟩
    obtain ⟨m, hm, hn⟩ := mem_numbers_obj.mp hn
    exact (h m hm).numbers n hn

theorem Bounded.of_get? (hb : Bounded (levels + 1) (.obj members)) (hv : Members.get? k members = some v) :
    Bounded levels v :=
  bounded_obj.mp hb _ (Members.mem_of_get? hv)

theorem not_bounded_arr : ¬ Bounded 0 (.arr items) := fun h => nomatch h.depth

theorem not_bounded_obj : ¬ Bounded 0 (.obj members) := fun h => nomatch h.depth

end LanguageServer.Json
