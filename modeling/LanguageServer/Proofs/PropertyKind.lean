import LanguageServer.PropertyKind
import LanguageServer.Proofs.Many

/-! Plain properties: which values conform to a kind, that the check of a kind accepts just these, and that
    reading such a value succeeds and writing gives it back. -/

namespace LanguageServer

namespace Json

/-- The value is a string. -/
def IsText (v : Json) : Prop := ∃ s, v = .str s

/-- The value is a whole number from a bound on, up to below a second one. -/
def IsWhole (low high : Int) (v : Json) : Prop := ∃ n, v = .int n ∧ low ≤ n ∧ n < high

/-- The value is a string that reads as a URI. -/
def IsUri (v : Json) : Prop := ∃ s u, v = .str s ∧ Uri.parse s = .ok u

/-- The value is an array of values with a property. -/
def IsArrayOf (P : Json → Prop) (v : Json) : Prop := ∃ items, v = .arr items ∧ ∀ x ∈ items, P x

namespace Number

theorem signed?_eq_some_iff {n : Number} {i : Int} :
    n.signed? = some i ↔ n = .int i ∧ -0x8000000000000000 ≤ i ∧ i < 0x8000000000000000 := by
  cases n with
  | int j =>
    simp only [signed?, Option.ite_none_right_eq_some, Option.some.injEq, int.injEq]
    unfold minSigned maxSigned
    omega
  | float bits => simp [signed?]

theorem unsigned?_eq_some_iff {n : Number} {i : Nat} : n.unsigned? = some i ↔ n = .int i := by
  match n with
  | .int (.ofNat j) =>
    simp only [unsigned?, Option.some.injEq, int.injEq, Int.ofNat_eq_natCast]
    omega
  | .int (.negSucc j) => simp [unsigned?]
  | .float bits => simp [unsigned?]

end Number

theorem isWhole_num {n : Number} {low high : Int} :
    IsWhole low high (.num n) ↔ ∃ i, n = .int i ∧ low ≤ i ∧ i < high := by
  simp [IsWhole, Json.int]

end Json

theorem Uri.isUri_iff {s : String} : Uri.isUri s = true ↔ ∃ u, Uri.parse s = .ok u := by
  unfold Uri.isUri
  cases Uri.parse s <;> simp [Except.toBool]

theorem Json.isUri_str {s : String} : Json.IsUri (.str s) ↔ Uri.isUri s = true := by
  simp [Json.IsUri, Uri.isUri_iff]

namespace PropertyKind

/-- The value is one that the kind stands for. -/
def Conforms : PropertyKind → Json → Prop
  | object, v => ∃ members, v = .obj members
  | array, v => ∃ items, v = .arr items
  | string, v => v.IsText
  | number, v => ∃ n, v = .num n
  | integer, v => v.IsWhole (-0x80000000) 0x80000000
  | unsigned, v => v.IsWhole 0 0x100000000
  | boolean, v => ∃ b, v = .bool b
  | stringOrInteger, v => v.IsText ∨ v.IsWhole (-0x8000000000000000) 0x8000000000000000
  | unsignedOrNull, v => v = .null ∨ v.IsWhole 0 0x100000000
  | arrayOfString, v => v.IsArrayOf Json.IsText
  | uri, v => v.IsUri
  | uriOrNull, v => v = .null ∨ v.IsUri

/-! ### Numbers of 32 bits -/

theorem integer?_eq_some_iff {n : Json.Number} {i : Int32} :
    integer? n = some i ↔ n = .int i.toInt := by
  simp only [integer?, Option.bind_eq_some_iff, Json.Number.signed?_eq_some_iff,
    Option.ite_none_right_eq_some, Option.some.injEq]
  constructor
  · rintro ⟨j, ⟨rfl, -, -⟩, hj, rfl⟩
    rw [Int32.toInt_ofInt_of_le (by omega) (by omega)]
  · rintro rfl
    have hl := i.le_toInt
    have hu := i.toInt_lt
    exact ⟨i.toInt, ⟨rfl, by omega, by omega⟩, by omega, Int32.ofInt_toInt i⟩

theorem unsigned?_eq_some_iff {n : Json.Number} {i : UInt32} :
    unsigned? n = some i ↔ n = .int i.toNat := by
  simp only [unsigned?, Option.bind_eq_some_iff, Json.Number.unsigned?_eq_some_iff,
    Option.ite_none_right_eq_some, Option.some.injEq]
  constructor
  · rintro ⟨j, rfl, hj, rfl⟩
    rw [UInt32.toNat_ofNat_of_lt' (by simp [UInt32.size]; omega)]
  · rintro rfl
    have hu := i.toNat_lt
    exact ⟨i.toNat, rfl, by omega, UInt32.ofNat_toNat⟩

theorem exists_integer?_iff {n : Json.Number} :
    (∃ i, integer? n = some i) ↔ (Json.num n).IsWhole (-0x80000000) 0x80000000 := by
  simp only [integer?_eq_some_iff, Json.isWhole_num]
  constructor
  · rintro ⟨i, rfl⟩
    exact ⟨i.toInt, rfl, i.le_toInt, i.toInt_lt⟩
  · rintro ⟨i, rfl, hl, hu⟩
    exact ⟨Int32.ofInt i, by rw [Int32.toInt_ofInt_of_le hl hu]⟩

theorem exists_unsigned?_iff {n : Json.Number} :
    (∃ i, unsigned? n = some i) ↔ (Json.num n).IsWhole 0 0x100000000 := by
  simp only [unsigned?_eq_some_iff, Json.isWhole_num]
  constructor
  · rintro ⟨i, rfl⟩
    exact ⟨i.toNat, rfl, by omega, by have := i.toNat_lt; omega⟩
  · rintro ⟨i, rfl, hl, hu⟩
    refine ⟨UInt32.ofNat i.toNat, ?_⟩
    rw [UInt32.toNat_ofNat_of_lt' (by simp [UInt32.size]; omega), Int.toNat_of_nonneg hl]

theorem exists_signed?_iff {n : Json.Number} :
    (∃ i, n.signed? = some i) ↔ (Json.num n).IsWhole (-0x8000000000000000) 0x8000000000000000 := by
  simp only [Json.Number.signed?_eq_some_iff, Json.isWhole_num]

/-! ### Checking, reading and writing -/

/-- A kind accepts the values that conform to it. -/
theorem accepts_iff (k : PropertyKind) (v : Json) : k.accepts v = true ↔ k.Conforms v := by
  cases k with
  | object | array | string | number | boolean =>
    cases v <;> simp [accepts, Conforms, Json.IsText]
  | integer =>
    cases v with
    | num n => rw [accepts, Option.isSome_iff_exists, exists_integer?_iff, Conforms]
    | _ => simp [accepts, Conforms, Json.IsWhole, Json.int]
  | unsigned =>
    cases v with
    | num n => rw [accepts, Option.isSome_iff_exists, exists_unsigned?_iff, Conforms]
    | _ => simp [accepts, Conforms, Json.IsWhole, Json.int]
  | stringOrInteger =>
    cases v with
    | num n =>
      rw [accepts, Option.isSome_iff_exists, exists_signed?_iff, Conforms]
      simp [Json.IsText]
    | _ => simp [accepts, Conforms, Json.IsText, Json.IsWhole, Json.int]
  | unsignedOrNull =>
    cases v with
    | num n =>
      rw [accepts, Option.isSome_iff_exists, exists_unsigned?_iff, Conforms]
      simp
    | _ => simp [accepts, Conforms, Json.IsWhole, Json.int]
  | arrayOfString =>
    cases v with
    | arr items =>
      simp only [accepts, Conforms, List.all_eq_true, decide_eq_true_eq, Json.IsArrayOf,
        Json.arr.injEq, exists_eq_left']
      exact forall₂_congr fun x _ => by cases x <;> simp [Json.kind, Json.IsText]
    | _ => simp [accepts, Conforms, Json.IsArrayOf]
  | uri =>
    cases v with
    | str s => rw [accepts, Conforms, Json.isUri_str]
    | _ => simp [accepts, Conforms, Json.IsUri]
  | uriOrNull =>
    cases v with
    | str s =>
      rw [accepts, Conforms, Json.isUri_str]
      simp
    | _ => simp [accepts, Conforms, Json.IsUri]

theorem toOption_parse_eq_some_iff {s : String} {u : Uri} :
    (Uri.parse s).toOption = some u ↔ Uri.parse s = .ok u := by
  cases Uri.parse s <;> simp [Except.toOption]

theorem string?_eq_some_iff {v : Json} {s : String} : string? v = some s ↔ v = .str s := by
  cases v <;> simp [string?]

/-- A value that conforms to a kind can be read. -/
theorem exists_decode?_of_conforms {k : PropertyKind} {v : Json} (h : k.Conforms v) :
    ∃ x, k.decode? v = some x := by
  cases k with
  | object | array | number | boolean =>
    obtain ⟨x, rfl⟩ := h
    exact ⟨_, rfl⟩
  | string =>
    obtain ⟨s, rfl⟩ := h
    exact ⟨s, rfl⟩
  | integer =>
    obtain ⟨n, rfl, hn⟩ := h
    exact exists_integer?_iff.mpr ⟨n, rfl, hn⟩
  | unsigned =>
    obtain ⟨n, rfl, hn⟩ := h
    exact exists_unsigned?_iff.mpr ⟨n, rfl, hn⟩
  | stringOrInteger =>
    rcases h with ⟨s, rfl⟩ | ⟨n, rfl, hn⟩
    · exact ⟨_, rfl⟩
    · obtain ⟨i, hi⟩ := exists_signed?_iff.mpr ⟨n, rfl, hn⟩
      exact ⟨_, Option.map_eq_some_iff.mpr ⟨i, hi, rfl⟩⟩
  | unsignedOrNull =>
    rcases h with rfl | ⟨n, rfl, hn⟩
    · exact ⟨_, rfl⟩
    · obtain ⟨i, hi⟩ := exists_unsigned?_iff.mpr ⟨n, rfl, hn⟩
      exact ⟨_, Option.map_eq_some_iff.mpr ⟨i, hi, rfl⟩⟩
  | arrayOfString =>
    obtain ⟨items, rfl, hitems⟩ := h
    refine Many.exists_mapM fun v hv => ?_
    obtain ⟨s, rfl⟩ := hitems v hv
    exact ⟨s, rfl⟩
  | uri =>
    obtain ⟨s, u, rfl, hu⟩ := h
    exact ⟨u, toOption_parse_eq_some_iff.mpr hu⟩
  | uriOrNull =>
    rcases h with rfl | ⟨s, u, rfl, hu⟩
    · exact ⟨_, rfl⟩
    · exact ⟨some u, Option.map_eq_some_iff.mpr ⟨u, toOption_parse_eq_some_iff.mpr hu, rfl⟩⟩

/-- A value that was read is written as it was. -/
theorem encode_of_decode? {k : PropertyKind} {v : Json} {x : k.Value} (h : k.decode? v = some x) :
    k.encode x = v := by
  cases k with
  | object | array | string | number | boolean =>
    cases v <;> simp only [decode?, Option.some.injEq, reduceCtorEq] at h
    subst h
    rfl
  | integer =>
    cases v <;> simp only [decode?, reduceCtorEq] at h
    rw [integer?_eq_some_iff.mp h]
    rfl
  | unsigned =>
    cases v <;> simp only [decode?, reduceCtorEq] at h
    rw [unsigned?_eq_some_iff.mp h]
    rfl
  | stringOrInteger =>
    cases v <;> simp only [decode?, Option.some.injEq, reduceCtorEq] at h
    · obtain ⟨i, hi, rfl⟩ := Option.map_eq_some_iff.mp h
      obtain ⟨rfl, hl, hu⟩ := Json.Number.signed?_eq_some_iff.mp hi
      rw [encode, Int64.toInt_ofInt_of_le hl hu]
      rfl
    · subst h
      rfl
  | unsignedOrNull =>
    cases v <;> simp only [decode?, Option.some.injEq, reduceCtorEq] at h
    · subst h
      rfl
    · obtain ⟨i, hi, rfl⟩ := Option.map_eq_some_iff.mp h
      rw [unsigned?_eq_some_iff.mp hi]
      rfl
  | arrayOfString =>
    cases v <;> simp only [decode?, reduceCtorEq] at h
    rw [encode, Many.map_of_mapM h fun v _ s hs => string?_eq_some_iff.mp hs |>.symm]
    exact congrArg Json.arr (List.map_id' _)
  | uri =>
    cases v <;> simp only [decode?, reduceCtorEq] at h
    rw [encode, Uri.text_of_parse (toOption_parse_eq_some_iff.mp h)]
  | uriOrNull =>
    cases v <;> simp only [decode?, Option.some.injEq, reduceCtorEq] at h
    · subst h
      rfl
    · obtain ⟨u, hu, rfl⟩ := Option.map_eq_some_iff.mp h
      rw [encode, Uri.text_of_parse (toOption_parse_eq_some_iff.mp hu)]

end PropertyKind

end LanguageServer
