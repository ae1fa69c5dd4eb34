import LanguageServer.Proofs.Json.Double
import LanguageServer.Proofs.Json.Writer

/-! What the texts of a value can be relied on for. Whatever strings are in a value, its text on one line
    has no control character in it, and so no line break (`printable_compact`). A value that is nested no
    deeper than a text may be is read again, from either text as the same value, if its numbers are such as
    a text can hold (`read_texts`). It need not be the value that was written, for the members are put in
    order and a double may become its neighbour. -/

namespace LanguageServer.Json

variable {c : Char} {v : Json} {k : Nat}

/-! ### No control characters -/

/-- The character is no control character, so it stands in a line. -/
def Printable (c : Char) : Prop := 0x20 ≤ c.toNat

instance : DecidablePred Printable := fun c => inferInstanceAs (Decidable (0x20 ≤ c.toNat))

theorem Number.IsPart.printable (h : Number.IsPart c) : Printable c := by
  rcases h with h | rfl | rfl | rfl | rfl
  · have hzero : '0'.toNat ≤ c.toNat := (Char.isDigit_iff_toNat.mp h).1
    exact Nat.le_trans (by decide) hzero
  all_goals decide

theorem printable_of_all {cs : List Char} (h : cs.all (fun c => decide (Printable c)) = true) :
    ∀ c ∈ cs, Printable c := fun c hc => of_decide_eq_true (List.all_eq_true.mp h c hc)

theorem printable_hexDigit : ∀ n < 16, Printable (hexDigit n) := by
  decide

/-- A control character is escaped. -/
theorem printable_escape (c : Char) : ∀ d ∈ escape c, Printable d := by
  unfold escape
  split
  · exact printable_of_all rfl
  split
  · exact printable_of_all rfl
  split
  · rename_i hplain
    exact fun d hd => List.mem_singleton.mp hd ▸ hplain
  rename_i hcontrol
  repeat (split; · exact printable_of_all rfl)
  have hhigh := printable_hexDigit (c.toNat / 16) (by omega)
  have hlow := printable_hexDigit (c.toNat % 16) (Nat.mod_lt _ (by decide))
  have hstart : ∀ d ∈ ['\\', 'u', '0', '0'], Printable d := printable_of_all rfl
  exact List.forall_mem_append.mpr
    ⟨hstart, List.forall_mem_cons.mpr ⟨hhigh, List.forall_mem_singleton.mpr hlow⟩⟩

theorem printable_quote (s : String) : ∀ c ∈ quote s, Printable c := by
  refine List.forall_mem_append.mpr ⟨List.forall_mem_cons.mpr ⟨by decide, ?_⟩, printable_of_all rfl⟩
  exact List.forall_mem_flatMap.mpr fun c _ => printable_escape c

mutual

theorem printable_compactChars : (v : Json) → ∀ c ∈ compactChars v, Printable c
  | .null => printable_of_all rfl
  | .bool true | .bool false => printable_of_all rfl
  | .num n => fun c h => (n.isPart_text c h).printable
  | .str s => printable_quote s
  | .arr [] | .obj [] => printable_of_all rfl
  | .arr (v :: items) => by
    simp only [compactChars, List.forall_mem_append, List.forall_mem_cons]
    exact ⟨⟨by decide, printable_compactChars v⟩, printable_compactItems items⟩
  | .obj ((key, v) :: members) => by
    simp only [compactChars, List.forall_mem_append, List.forall_mem_cons]
    exact ⟨⟨⟨by decide, printable_quote key⟩, by decide, printable_compactChars v⟩,
      printable_compactMembers members⟩

theorem printable_compactItems : (items : List Json) → ∀ c ∈ compactItems items, Printable c
  | [] => printable_of_all rfl
  | v :: items => by
    simp only [compactItems, List.forall_mem_append, List.forall_mem_cons]
    exact ⟨⟨by decide, printable_compactChars v⟩, printable_compactItems items⟩

theorem printable_compactMembers : (members : Members) → ∀ c ∈ compactMembers members, Printable c
  | [] => printable_of_all rfl
  | (key, v) :: members => by
    simp only [compactMembers, List.forall_mem_append, List.forall_mem_cons]
    exact ⟨⟨⟨by decide, printable_quote key⟩, by decide, printable_compactChars v⟩,
      printable_compactMembers members⟩

end

theorem printable_compact (v : Json) : ∀ c ∈ (compact v).toList, Printable c := by
  rw [compact, String.toList_ofList]
  exact printable_compactChars v

/-! ### Reading again -/

mutual

/-- A value that fits where it stands is read, if its numbers are such as a text can hold. -/
theorem isSome_reread : (v : Json) → (k levels : Nat) → k + levels ≤ Reader.maxDepth → v.depth ≤ levels →
    (∀ n ∈ v.numbers, n.Canonical) → (reread k v).isSome = true
  | .null, _, _, _, _, _ | .bool _, _, _, _, _, _ | .str _, _, _, _, _, _ => rfl
  | .num n, _, _, _, _, hn => by
    rw [reread, Option.isSome_map]
    exact Number.reread_isSome (hn n (List.mem_singleton_self n))
  | .arr items, k, 0, _, hd, _ => nomatch hd
  | .arr items, k, levels + 1, hk, hd, hn => by
    have hitems := isSome_rereadItems items (k + 1) levels (by omega)
      (depthItems_le.mp (Nat.le_of_succ_le_succ hd)) fun v hv n hmem => hn n (mem_numbers_arr.mpr ⟨v, hv, hmem⟩)
    rw [reread, if_pos (by omega), Option.isSome_map]
    exact hitems
  | .obj members, k, 0, _, hd, _ => nomatch hd
  | .obj members, k, levels + 1, hk, hd, hn => by
    have hmembers := isSome_rereadMembers members (k + 1) levels [] (by omega)
      (depthMembers_le.mp (Nat.le_of_succ_le_succ hd))
      fun m hm n hmem => hn n (mem_numbers_obj.mpr ⟨m, hm, hmem⟩)
    rw [reread, if_pos (by omega), Option.isSome_map]
    exact hmembers

theorem isSome_rereadItems : (items : List Json) → (k levels : Nat) → k + levels ≤ Reader.maxDepth →
    (∀ v ∈ items, v.depth ≤ levels) → (∀ v ∈ items, ∀ n ∈ v.numbers, n.Canonical) →
    (rereadItems k items).isSome = true
  | [], _, _, _, _, _ => rfl
  | v :: items, k, levels, hk, hd, hn => by
    obtain ⟨hv, hd⟩ := List.forall_mem_cons.mp hd
    obtain ⟨hvn, hn⟩ := List.forall_mem_cons.mp hn
    obtain ⟨w, hw⟩ := Option.isSome_iff_exists.mp (isSome_reread v k levels hk hv hvn)
    rw [rereadItems, hw, Option.bind_some, Option.isSome_map]
    exact isSome_rereadItems items k levels hk hd hn

theorem isSome_rereadMembers : (members : Members) → (k levels : Nat) → (read : Members) →
    k + levels ≤ Reader.maxDepth → (∀ m ∈ members, m.2.depth ≤ levels) →
    (∀ m ∈ members, ∀ n ∈ m.2.numbers, n.Canonical) → (rereadMembers k members read).isSome = true
  | [], _, _, _, _, _, _ => rfl
  | (key, v) :: members, k, levels, read, hk, hd, hn => by
    obtain ⟨hv, hd⟩ := List.forall_mem_cons.mp hd
    obtain ⟨hvn, hn⟩ := List.forall_mem_cons.mp hn
    obtain ⟨w, hw⟩ := Option.isSome_iff_exists.mp (isSome_reread v k levels hk hv hvn)
    rw [rereadMembers, hw, Option.bind_some]
    exact isSome_rereadMembers members k levels _ hk hd hn

end

/-- Both texts of a value are read as the same value, if it is nested no deeper than a text may be and its
    numbers are such as a text can hold. -/
theorem read_texts (hd : v.depth ≤ Reader.maxDepth) (hn : ∀ n ∈ v.numbers, n.Canonical) :
    ∃ w, Json.read (compact v) = .ok w ∧ Json.read (pretty v) = .ok w := by
  obtain ⟨w, hw⟩ := Option.isSome_iff_exists.mp (isSome_reread v 0 _ (Nat.zero_add _ ▸ Nat.le_refl _) hd hn)
  have hcompact := read_compact_of_reread hw
  exact ⟨w, hcompact, (read_pretty v).trans hcompact⟩

end LanguageServer.Json
