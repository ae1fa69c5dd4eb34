import LanguageServer.Json.Reader
import LanguageServer.Proofs.Json.Bounded
import LanguageServer.Proofs.Json.Ordered

/-! What holds of every value that was read. The reader builds a value from within, from literals, strings
    and numbers up to arrays and objects, and the stack tells how many of these are open around it. A
    property that is kept by every way of building (`Reader.Builds`) holds of whatever the machine holds on
    to, by every step, and so of the value at the end (`Reader.Builds.holds`). A value that was read is in
    order, for members are put in their places as they come, and it is bounded, for the reader refuses what
    is nested too deeply and keeps no more digits than a word of 64 bits holds. -/

namespace LanguageServer.Json

/-! ### The digits that are kept -/

namespace Numeral

variable {n n' : Numeral} {c : Char}

theorem le_of_digit? {d : Nat} (h : digit? c = some d) : d ≤ 9 := by
  unfold digit? at h
  split at h
  · rename_i hc
    cases h
    have hle : c.toNat ≤ '9'.toNat := hc.2
    have hnine : '9'.toNat - '0'.toNat = 9 := rfl
    omega
  · cases h

theorem significand_start? (h : start? c = some n) : n.significand ≤ Number.maxUnsigned := by
  unfold start? at h
  split at h
  · cases h
    exact Nat.zero_le _
  · obtain ⟨d, hd, rfl⟩ := Option.map_eq_some_iff.mp h
    exact Nat.le_trans (le_of_digit? hd) (by decide)

theorem significand_wholeDigit (hn : n.significand ≤ Number.maxUnsigned) (d : Nat) :
    (n.wholeDigit d).significand ≤ Number.maxUnsigned := by
  unfold wholeDigit
  split
  · exact hn
  · rename_i hfull
    simp only [Bool.or_eq_true, decide_eq_true_eq, not_or, Nat.not_lt] at hfull
    exact hfull.2

theorem significand_fractionDigit (hn : n.significand ≤ Number.maxUnsigned) (d : Nat) :
    (n.fractionDigit d).significand ≤ Number.maxUnsigned := by
  unfold fractionDigit
  split
  · exact hn
  · rename_i hfull
    simp only [Bool.or_eq_true, decide_eq_true_eq, not_or, Nat.not_lt] at hfull
    exact hfull.2

/-- A digit that does not fit is not kept. -/
theorem significand_next (hn : n.significand ≤ Number.maxUnsigned) (h : n.next c = .more n') :
    n'.significand ≤ Number.maxUnsigned := by
  unfold next at h
  split at h
  · cases h
    exact hn
  · rename_i hd
    cases h
    exact Nat.le_trans (le_of_digit? hd) (by decide)
  all_goals
    repeat' split at h
    all_goals cases h
    all_goals first
      | exact hn
      | exact significand_wholeDigit hn _
      | exact significand_fractionDigit hn _

/-- A whole number that was read fits a word of 64 bits. -/
theorem fits_of_value? {m : Number} (hn : n.significand ≤ Number.maxUnsigned) (h : n.value? = some m) :
    m.Fits := by
  have hreal : ∀ r : Number, n.real? = some r → r.Fits := by
    intro r hr
    obtain ⟨f, -, rfl⟩ := Option.map_eq_some_iff.mp hr
    exact trivial
  unfold value? at h
  split at h
  · exact hreal m h
  · split at h
    · cases h
      simp only [Number.Fits, Number.minSigned, Number.maxUnsigned] at hn ⊢
      omega
    · split at h
      · exact hreal m h
      · cases h
        simp only [Number.Fits, Number.minSigned, Number.maxUnsigned] at hn ⊢
        omega

end Numeral

namespace Reader

/-! ### What every way of building keeps -/

/-- The property is kept where the reader builds a value. It is told of a value together with how many
    arrays and objects are open around it. -/
structure Builds (P : Nat → Json → Prop) : Prop where
  null : ∀ k, P k .null
  bool : ∀ k b, P k (.bool b)
  str : ∀ k s, P k (.str s)
  num : ∀ k (n : Numeral) m, n.significand ≤ Number.maxUnsigned → n.value? = some m → P k (.num m)
  arr : ∀ k items, k < maxDepth → (∀ v ∈ items, P (k + 1) v) → P k (.arr items)
  empty : ∀ k, k < maxDepth → P k (.obj [])
  insert : ∀ k key v members, P k (.obj members) → P (k + 1) v → P k (.obj (Members.insert key v members))

variable {P : Nat → Json → Prop}

/-- The property holds of what is read in an array or object around which so many others are open. -/
def Frame.Holds (P : Nat → Json → Prop) (k : Nat) : Frame → Prop
  | .items read => k < maxDepth ∧ ∀ v ∈ read, P (k + 1) v
  | .members read _ => P k (.obj read)

/-- The property holds of what is read in everything that is open. -/
def StackHolds (P : Nat → Json → Prop) : List Frame → Prop
  | [] => True
  | f :: rest => f.Holds P rest.length ∧ StackHolds P rest

/-- The property holds of the members before a key. -/
def Role.Holds (P : Nat → Json → Prop) (k : Nat) : Role → Prop
  | .value => True
  | .key read => P k (.obj read)

/-- The property holds of what the mode holds. -/
def Mode.Holds (P : Nat → Json → Prop) (k : Nat) : Mode → Prop
  | .value | .firstItem => True
  | .firstKey => k < maxDepth
  | .nextKey read => P k (.obj read)
  | .colon read _ => P k (.obj read)
  | .text role _ => role.Holds P k
  | .escape role _ => role.Holds P k
  | .unit role _ _ _ _ => role.Holds P k
  | .pairSlash role _ _ => role.Holds P k
  | .pairLetter role _ _ => role.Holds P k
  | .word _ v => P k v
  | .numeral n => n.significand ≤ Number.maxUnsigned
  | .done v => P k v

/-- The property holds of whatever the machine holds on to. -/
structure State.Holds (P : Nat → Json → Prop) (s : State) : Prop where
  stack : StackHolds P s.stack
  mode : s.mode.Holds P s.stack.length

namespace Builds

variable {s t : State} {stack : List Frame} {c : Char} {cs : List Char} {v : Json}

theorem openValue (h : Builds P) (hs : StackHolds P stack) (ht : Reader.openValue stack c = .ok t) :
    t.Holds P := by
  unfold Reader.openValue at ht
  split at ht
  · rename_i n hn
    cases ht
    exact ⟨hs, Numeral.significand_start? hn⟩
  · repeat' split at ht
    all_goals cases ht
    · exact ⟨hs, trivial⟩
    · rename_i hroom
      exact ⟨⟨⟨hroom, nofun⟩, hs⟩, trivial⟩
    · rename_i hroom
      exact ⟨hs, hroom⟩
    · exact ⟨hs, h.null _⟩
    · exact ⟨hs, h.bool _ true⟩
    · exact ⟨hs, h.bool _ false⟩

/-- A complete value goes to what is open around it. -/
theorem afterValue (h : Builds P) (hs : StackHolds P stack) (hv : P stack.length v)
    (ht : Reader.afterValue stack v c = .ok t) : t.Holds P := by
  unfold Reader.afterValue at ht
  split at ht
  · cases ht
    exact ⟨hs, hv⟩
  · split at ht
    · cases ht
    · rename_i read rest
      obtain ⟨⟨hroom, hread⟩, hs⟩ := hs
      have hitems : ∀ w ∈ v :: read, P (rest.length + 1) w := List.forall_mem_cons.mpr ⟨hv, hread⟩
      split at ht
      · cases ht
        exact ⟨⟨⟨hroom, hitems⟩, hs⟩, trivial⟩
      · split at ht
        · cases ht
          exact ⟨hs, h.arr _ _ hroom fun w hw => hitems w (List.mem_reverse.mp hw)⟩
        · cases ht
    · rename_i read key rest
      obtain ⟨hread, hs⟩ := hs
      have hmembers : P rest.length (.obj (Members.insert key v read)) := h.insert _ key v read hread hv
      split at ht
      · cases ht
        exact ⟨hs, hmembers⟩
      · split at ht
        · cases ht
          exact ⟨hs, hmembers⟩
        · cases ht

theorem closeText (h : Builds P) {role : Role} {read : List Char} (hs : StackHolds P stack)
    (hr : role.Holds P stack.length) : (Reader.closeText stack read role).Holds P := by
  cases role with
  | value => exact ⟨hs, h.str _ _⟩
  | key members => exact ⟨hs, hr⟩

theorem closeUnit {role : Role} {read taken : List Char} {high : Option Nat}
    (hs : StackHolds P stack) (hr : role.Holds P stack.length)
    (ht : Reader.closeUnit stack role read high taken = .ok t) : t.Holds P := by
  unfold Reader.closeUnit at ht
  repeat' split at ht
  all_goals cases ht
  all_goals exact ⟨hs, hr⟩

/-- A step keeps the property of whatever the machine holds on to. -/
theorem step (h : Builds P) (hs : s.Holds P) (ht : Reader.step s c = .ok t) : t.Holds P := by
  obtain ⟨stack, mode⟩ := s
  obtain ⟨hstack, hmode⟩ := hs
  cases mode with
  | value =>
    simp only [Reader.step] at ht
    split at ht
    · cases ht
      exact ⟨hstack, hmode⟩
    · exact h.openValue hstack ht
  | firstItem =>
    simp only [Reader.step] at ht
    split at ht
    · cases ht
      exact ⟨hstack, hmode⟩
    · split at ht
      · split at ht
        · cases ht
          obtain ⟨⟨hroom, -⟩, hrest⟩ := hstack
          exact ⟨hrest, h.arr _ _ hroom nofun⟩
        · cases ht
      · exact h.openValue hstack ht
  | firstKey =>
    simp only [Reader.step] at ht
    repeat' split at ht
    all_goals cases ht
    · exact ⟨hstack, hmode⟩
    · exact ⟨hstack, h.empty _ hmode⟩
    · exact ⟨hstack, h.empty _ hmode⟩
  | nextKey read =>
    simp only [Reader.step] at ht
    repeat' split at ht
    all_goals cases ht
    all_goals exact ⟨hstack, hmode⟩
  | colon read key =>
    simp only [Reader.step] at ht
    repeat' split at ht
    all_goals cases ht
    · exact ⟨hstack, hmode⟩
    · exact ⟨⟨hmode, hstack⟩, trivial⟩
  | text role read =>
    simp only [Reader.step] at ht
    split at ht
    · cases ht
      exact h.closeText hstack hmode
    · repeat' split at ht
      all_goals cases ht
      all_goals exact ⟨hstack, hmode⟩
  | escape role read =>
    simp only [Reader.step] at ht
    repeat' split at ht
    all_goals cases ht
    all_goals exact ⟨hstack, hmode⟩
  | unit role read high taken bytes =>
    simp only [Reader.step] at ht
    split at ht
    · cases ht
      exact ⟨hstack, hmode⟩
    · exact closeUnit hstack hmode ht
  | pairSlash role read high | pairLetter role read high =>
    simp only [Reader.step] at ht
    repeat' split at ht
    all_goals cases ht
    all_goals exact ⟨hstack, hmode⟩
  | word rest v =>
    match rest with
    | [] => exact h.afterValue hstack hmode ht
    | [e] | e :: _ :: _ =>
      simp only [Reader.step] at ht
      repeat' split at ht
      all_goals cases ht
      all_goals exact ⟨hstack, hmode⟩
  | numeral n =>
    simp only [Reader.step] at ht
    split at ht
    · rename_i hn
      cases ht
      exact ⟨hstack, Numeral.significand_next hmode hn⟩
    · cases ht
    · split at ht
      · rename_i m hm
        exact h.afterValue hstack (h.num _ n m hmode hm) ht
      · cases ht
  | done v => exact h.afterValue hstack hmode ht

theorem run (h : Builds P) (hs : s.Holds P) (ht : Reader.run s cs = .ok t) : t.Holds P := by
  unfold Reader.run at ht
  induction cs generalizing s with
  | nil =>
    cases ht
    exact hs
  | cons c cs ih =>
    rw [List.foldlM_cons] at ht
    cases hc : Reader.step s c with
    | error fault =>
      rw [hc] at ht
      cases ht
    | ok u =>
      rw [hc] at ht
      exact ih (h.step hs hc) ht

theorem finish (h : Builds P) (hs : s.Holds P) (hv : Reader.finish s = .ok v) : P 0 v := by
  obtain ⟨stack, mode⟩ := s
  obtain ⟨-, hmode⟩ := hs
  cases mode with
  | done w =>
    simp only [Reader.finish] at hv
    split at hv
    · rename_i hempty
      cases hv
      rw [List.isEmpty_iff.mp hempty] at hmode
      exact hmode
    · cases hv
  | numeral n =>
    simp only [Reader.finish] at hv
    repeat' split at hv
    all_goals cases hv
    rename_i hm _
    exact h.num 0 n _ hmode hm
  | _ => cases hv

/-- A property that is kept by every way of building a value holds of every value that was read. -/
theorem holds (h : Builds P) {text : String} (hv : read text = .ok v) : P 0 v := by
  have hstart : Reader.start.Holds P := ⟨trivial, trivial⟩
  unfold read readChars at hv
  cases hr : Reader.run Reader.start text.toList with
  | error fault =>
    rw [hr] at hv
    cases hv
  | ok s =>
    rw [hr] at hv
    exact h.finish (h.run hstart hr) hv

end Builds

/-! ### Order and bounds -/

theorem builds_ordered : Builds fun _ v => v.Ordered where
  null _ := trivial
  bool _ _ := trivial
  str _ _ := trivial
  num _ _ _ _ _ := trivial
  arr _ _ _ hitems := ordered_arr.mpr hitems
  empty _ _ := ordered_obj.mpr ⟨List.Pairwise.nil, nofun⟩
  insert _ _ _ _ hm hv := by
    obtain ⟨hr, hm⟩ := ordered_obj.mp hm
    exact ordered_obj.mpr ⟨Members.rising_insert hr, ordered_insert hm hv⟩

/-- A value has as many levels at most as are left where it is read. -/
theorem builds_bounded : Builds fun k v => v.Bounded (maxDepth - k) where
  null _ := bounded_null
  bool _ _ := bounded_bool
  str _ _ := bounded_str
  num _ _ _ hn hm := bounded_num.mpr (Numeral.fits_of_value? hn hm)
  arr k _ hroom hitems := by
    obtain ⟨levels, hlevels⟩ := Nat.exists_eq_add_of_lt hroom
    have hleft : maxDepth - k = levels + 1 := by omega
    have hinner : maxDepth - (k + 1) = levels := by omega
    rw [hleft, bounded_arr]
    exact hinner ▸ hitems
  empty k hroom := by
    obtain ⟨levels, hlevels⟩ := Nat.exists_eq_add_of_lt hroom
    have hleft : maxDepth - k = levels + 1 := by omega
    rw [hleft, bounded_obj]
    exact nofun
  insert k key v members hm hv := by
    cases hleft : maxDepth - k with
    | zero => exact absurd (hleft ▸ hm) not_bounded_obj
    | succ levels =>
      have hinner : maxDepth - (k + 1) = levels := by omega
      rw [hleft, bounded_obj] at hm
      rw [bounded_obj]
      intro m hmem
      rcases Members.mem_insert hmem with rfl | hmem
      · exact hinner ▸ hv
      · exact hm m hmem

end Reader

/-- A value that was read is in order. -/
theorem ordered_of_read {text : String} {v : Json} (h : read text = .ok v) : v.Ordered :=
  Reader.builds_ordered.holds h

/-- A value that was read is bounded. -/
theorem bounded_of_read {text : String} {v : Json} (h : read text = .ok v) : v.Bounded Reader.maxDepth :=
  Reader.builds_bounded.holds h

end LanguageServer.Json
