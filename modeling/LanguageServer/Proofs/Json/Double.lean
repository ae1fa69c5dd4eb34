import LanguageServer.Proofs.Json.Numeral
import LanguageServer.Proofs.Json.Reader
import LanguageServer.Proofs.Json.Rounding
import Mathlib.Data.List.TakeWhile

/-! Reading the text of a double. The digits that do not fit a word of 64 bits are passed over, so the
    reader keeps a number that is no greater than what is written (`kept_fractionDigits_le`). What is
    written of a double is greater than it by half a unit at most, and so the reader can make a double of it
    again, if not the same one. For the last doubles before infinity this is not enough, and their texts are
    read one by one (`isSome_last`). Altogether the reader refuses no number that a text can hold
    (`reread_isSome`). -/

namespace LanguageServer.Json

namespace Numeral

open Rounding

variable {n m : Numeral} {c : Char} {cs ds rest : List Char} {k : Nat}

/-! ### Runs of digits -/

/-- The digits of a fraction, one after the other. -/
def fractionDigits (n : Numeral) (ds : List Char) : Numeral :=
  ds.foldl (fun n c => n.fractionDigit (c.toNat - '0'.toNat)) n

/-- The number that the digits make that were kept. -/
def kept (n : Numeral) : ℚ := n.significand * 10 ^ n.shift

theorem fractionDigit_eq (n : Numeral) (d : Nat) : ∃ significand shift full, shift ≤ n.shift ∧
    n.fractionDigit d = { n with part := .fraction, significand, shift, full } := by
  unfold fractionDigit
  split
  · exact ⟨n.significand, n.shift, true, le_refl _, rfl⟩
  · exact ⟨n.significand * 10 + d, n.shift - 1, n.full, by omega, rfl⟩

theorem fractionDigits_eq (hds : ds ≠ []) : ∃ significand shift full, shift ≤ n.shift ∧
    n.fractionDigits ds = { n with part := .fraction, significand, shift, full } := by
  induction ds generalizing n with
  | nil => exact absurd rfl hds
  | cons d ds ih =>
    obtain ⟨significand, shift, full, hle, hdigit⟩ := fractionDigit_eq n (d.toNat - '0'.toNat)
    rw [fractionDigits, List.foldl_cons, hdigit]
    by_cases hds : ds = []
    · exact ⟨significand, shift, full, hle, by rw [hds]; rfl⟩
    · obtain ⟨significand', shift', full', hle', hrest⟩ :=
        ih (n := { n with part := .fraction, significand, shift, full }) hds
      exact ⟨significand', shift', full', hle'.trans hle, hrest⟩

theorem more?_fraction (hpart : n.part = .point ∨ n.part = .fraction) (hc : c.isDigit = true) :
    more? n c = some (n.fractionDigit (c.toNat - '0'.toNat)) := by
  rcases hpart with h | h
  · simp only [more?, next, h, digit?_of_isDigit hc]
  · simp only [more?, next, h, digit?_of_isDigit hc]

theorem foldlM_more?_fraction (hpart : n.part = .point ∨ n.part = .fraction)
    (hds : ∀ c ∈ ds, c.isDigit = true) : ds.foldlM more? n = some (n.fractionDigits ds) := by
  induction ds generalizing n with
  | nil => rfl
  | cons d ds ih =>
    obtain ⟨hd, hds⟩ := List.forall_mem_cons.mp hds
    obtain ⟨significand, shift, full, -, hdigit⟩ := fractionDigit_eq n (d.toNat - '0'.toNat)
    rw [List.foldlM_cons, more?_fraction hpart hd, Option.bind_eq_bind, Option.bind_some, fractionDigits,
      List.foldl_cons]
    exact ih (Or.inr (by rw [hdigit])) hds

/-- Digits that do not fit are passed over, and so are all behind them. -/
theorem fractionDigits_full (hfull : n.full = true) : (n.fractionDigits ds).kept = n.kept := by
  induction ds generalizing n with
  | nil => rfl
  | cons d ds ih =>
    have hdigit : n.fractionDigit (d.toNat - '0'.toNat) = { n with part := .fraction, full := true } := by
      rw [fractionDigit, hfull]
      rfl
    rw [fractionDigits, List.foldl_cons, hdigit]
    exact ih rfl

/-- The digits of a fraction make no more than what is written, however many of them are kept. -/
theorem kept_fractionDigits_le (hfull : n.full = false) :
    (n.fractionDigits ds).kept ≤ Nat.ofDigitChars 10 ds n.significand * 10 ^ (n.shift - ds.length) := by
  induction ds generalizing n with
  | nil => simp [fractionDigits, kept]
  | cons d ds ih =>
    rw [fractionDigits, List.foldl_cons, ← fractionDigits, fractionDigit]
    split
    · have hkept : n.kept = n.significand * 10 ^ (d :: ds).length * 10 ^ (n.shift - (d :: ds).length) := by
        rw [kept, mul_assoc, ← zpow_natCast, ← zpow_add₀ (by norm_num)]
        congr 2
        omega
      have hwritten : n.significand * 10 ^ (d :: ds).length ≤ Nat.ofDigitChars 10 (d :: ds) n.significand := by
        rw [Nat.ofDigitChars_eq_ofDigitChars_zero, Nat.mul_comm]
        exact Nat.le_add_right _ _
      have hwritten : (n.significand * 10 ^ (d :: ds).length : ℚ) ≤
          Nat.ofDigitChars 10 (d :: ds) n.significand := mod_cast hwritten
      rw [fractionDigits_full rfl]
      change n.kept ≤ _
      rw [hkept]
      gcongr
    · refine (ih (n := { n with part := .fraction, significand := _, shift := _ }) hfull).trans_eq ?_
      rw [Nat.ofDigitChars_cons, Nat.mul_comm 10, List.length_cons]
      congr 2
      push_cast
      omega

theorem foldlM_more?_power (hpart : n.part = .power) (hds : ∀ c ∈ ds, c.isDigit = true) :
    ds.foldlM more? n = some { n with power := Nat.ofDigitChars 10 ds n.power } := by
  induction ds generalizing n with
  | nil => rfl
  | cons d ds ih =>
    obtain ⟨hd, hds⟩ := List.forall_mem_cons.mp hds
    have hstep : more? n d = some (n.powerDigit (d.toNat - '0'.toNat)) := by
      simp only [more?, next, hpart, digit?_of_isDigit hd]
    rw [List.foldlM_cons, hstep, Option.bind_eq_bind, Option.bind_some, ih rfl hds, powerDigit,
      Nat.ofDigitChars_cons, Nat.mul_comm 10, ← hpart]

/-! ### Numbers that are read -/

theorem significand_foldlM (hn : n.significand ≤ Number.maxUnsigned) (h : cs.foldlM more? n = some m) :
    m.significand ≤ Number.maxUnsigned := by
  induction cs generalizing n with
  | nil =>
    cases h
    exact hn
  | cons c cs ih =>
    obtain ⟨n', hstep, h⟩ := Option.bind_eq_some_iff.mp h
    refine ih ?_ h
    unfold more? at hstep
    split at hstep
    · rename_i hnext
      cases hstep
      exact significand_next hn hnext
    · cases hstep

/-- The power of ten that the significand is to be multiplied with. -/
def exponent (n : Numeral) : Int := if n.powerNegative then n.shift - n.power else n.shift + n.power

/-- The number may end here, and it is a double that is not too great. -/
structure Readable (n : Numeral) : Prop where
  fits : n.significand ≤ Number.maxUnsigned
  whole : n.isWhole = true
  real : n.isReal = true
  modest : Modest (n.significand * 10 ^ n.exponent)

theorem Readable.ended? (h : n.Readable) : n.ended?.isSome = true := by
  have hfits := h.fits
  rw [Number.maxUnsigned] at hfits
  have hword : (UInt64.ofNat n.significand).toNat = n.significand := by
    rw [UInt64.toNat_ofNat', Nat.mod_eq_of_lt (by omega)]
  have hscale := isSome_scale? (n := UInt64.ofNat n.significand) (hword ▸ h.modest)
  rw [Numeral.ended?, if_pos h.whole, value?, if_pos h.real, real?, Option.isSome_map]
  exact hscale

theorem modest_of_nonpos (hn : n.significand ≤ Number.maxUnsigned) (he : n.exponent ≤ 0) :
    Modest (n.significand * 10 ^ n.exponent) := by
  have hword : (n.significand : ℚ) ≤ 2 ^ 64 := mod_cast Nat.le_trans hn (by decide)
  have hpower : (10 : ℚ) ^ n.exponent ≤ 1 := zpow_le_one_of_nonpos₀ (by norm_num) he
  have hunit : (2 : ℚ) ^ (64 : Int) ≤ 2 ^ (970 : Int) := zpow_le_zpow_right₀ one_le_two (by decide)
  calc (n.significand : ℚ) * 10 ^ n.exponent ≤ 2 ^ 64 * 1 := by gcongr
    _ ≤ 1 * 2 ^ (970 : Int) := by rwa [mul_one, one_mul]
    _ ≤ (2 ^ 54 - 7) * 2 ^ (970 : Int) := by gcongr; norm_num

/-- Of the number only the whole part is read, and its digits fit. -/
structure Front (n : Numeral) : Prop where
  part : n.part = .zero ∨ n.part = .whole
  fits : n.significand ≤ Number.maxUnsigned
  shift : n.shift = 0
  full : n.full = false
  powerNegative : n.powerNegative = false
  power : n.power = 0

/-- The number that a digit starts, behind a minus sign or not. -/
def first (negative : Bool) (d : Nat) : Numeral :=
  { blank with part := if d = 0 then .zero else .whole, negative, significand := d }

theorem front_first {negative : Bool} {d : Nat} (hd : d ≤ 9) : (first negative d).Front where
  part := by
    unfold first
    split
    · exact Or.inl rfl
    · exact Or.inr rfl
  fits := Nat.le_trans hd (by decide)
  shift := rfl
  full := rfl
  powerNegative := rfl
  power := rfl

theorem ofChars?_first (negative : Bool) (hc : c.isDigit = true) :
    ofChars? ((if negative then ['-'] else []) ++ c :: cs) =
      cs.foldlM more? (first negative (c.toNat - '0'.toNat)) := by
  have hminus : c ≠ '-' := by
    rintro rfl
    cases hc
  cases negative with
  | false =>
    simp [ofChars?, start?, hminus, digit?_of_isDigit hc, first, blank]
  | true =>
    have hstep : more? { blank with negative := true } c = some (first true (c.toNat - '0'.toNat)) := by
      rw [more?, next, digit?_of_isDigit hc]
      cases c.toNat - '0'.toNat <;> rfl
    have hstart : start? '-' = some { blank with negative := true } := rfl
    simp [ofChars?, hstart, hstep]

theorem Front.foldlM_point (h : n.Front) (hds : ∀ c ∈ ds, c.isDigit = true) :
    ('.' :: ds).foldlM more? n = some (n.withPoint.fractionDigits ds) := by
  have hpoint : more? n '.' = some n.withPoint := by
    rcases h.part with hpart | hpart
    all_goals
      simp only [more?, next, hpart]
      rfl
  rw [List.foldlM_cons, hpoint, Option.bind_eq_bind, Option.bind_some]
  exact foldlM_more?_fraction (Or.inl rfl) hds

/-- A fraction makes the number less, so it is not too great. -/
theorem Front.readable_fraction (h : n.Front) (hds : ∀ c ∈ ds, c.isDigit = true) (hne : ds ≠ []) :
    ∃ m, ('.' :: ds).foldlM more? n = some m ∧ m.Readable := by
  have hread := h.foldlM_point hds
  have hfits := significand_foldlM h.fits hread
  refine ⟨_, hread, ?_⟩
  obtain ⟨significand, shift, full, hle, hdigits⟩ := fractionDigits_eq (n := n.withPoint) hne
  rw [hdigits] at hfits ⊢
  refine ⟨hfits, rfl, rfl, modest_of_nonpos hfits ?_⟩
  have hshift : n.withPoint.shift = 0 := h.shift
  have hexponent : exponent { n.withPoint with part := .fraction, significand, shift, full } = shift := by
    simp [exponent, withPoint, h.powerNegative, h.power]
  rw [hexponent]
  omega

/-- The digits that are kept of a number with a fraction or without make no more than those that are written. -/
theorem Front.kept_le (h : n.Front) (hds : ∀ c ∈ ds, c.isDigit = true) :
    ∃ m, (if ds.isEmpty then [] else '.' :: ds).foldlM more? n = some m ∧
      (m.part = .zero ∨ m.part = .whole ∨ m.part = .fraction) ∧ m.powerNegative = false ∧ m.power = 0 ∧
        m.kept ≤ Nat.ofDigitChars 10 ds n.significand * 10 ^ (-(ds.length : Int)) := by
  cases ds with
  | nil =>
    refine ⟨n, rfl, h.part.imp_right Or.inl, h.powerNegative, h.power, ?_⟩
    simp [kept, h.shift]
  | cons d ds =>
    have hkept : (n.withPoint.fractionDigits (d :: ds)).kept ≤ _ := kept_fractionDigits_le rfl
    have hshift : n.withPoint.shift = 0 := h.shift
    rw [hshift, zero_sub] at hkept
    refine ⟨_, h.foldlM_point hds, ?_, ?_, ?_, hkept⟩
    all_goals
      obtain ⟨significand, shift, full, -, hdigits⟩ :=
        fractionDigits_eq (n := n.withPoint) (List.cons_ne_nil d ds)
      rw [hdigits]
    · exact Or.inr (Or.inr rfl)
    · exact h.powerNegative
    · exact h.power

/-- A written power of ten is read as it is written. -/
theorem foldlM_more?_exponent (hpart : n.part = .zero ∨ n.part = .whole ∨ n.part = .fraction)
    (hnegative : n.powerNegative = false) (hpower : n.power = 0) (lead : Int) :
    ('e' :: (if lead < 0 then '-' else '+') :: Nat.toDigits 10 lead.natAbs).foldlM more? n =
      some { n with part := .power, isReal := true, powerNegative := lead < 0, power := lead.natAbs } := by
  have hletter : more? n 'e' = some n.withLetter := by
    rcases hpart with h | h | h
    all_goals
      simp only [more?, next, h]
      rfl
  have hsign : more? n.withLetter (if lead < 0 then '-' else '+') =
      some { n.withLetter with part := .sign, powerNegative := lead < 0 } := by
    split
    · rename_i h
      simp [more?, next, withLetter, digit?, h]
    · rename_i h
      simp [more?, next, withLetter, digit?, h, hnegative]
  obtain ⟨d, ds, hdigits⟩ := List.exists_cons_of_ne_nil (Nat.toDigits_ne_nil (n := lead.natAbs) (b := 10))
  obtain ⟨hd, hds⟩ := List.forall_mem_cons.mp (hdigits ▸ Number.isDigit_toDigits lead.natAbs)
  have hfirst : ∀ m : Numeral, m.part = .sign → more? m d = some (m.powerDigit (d.toNat - '0'.toNat)) := by
    intro m hm
    simp only [more?, next, hm, digit?_of_isDigit hd]
  have hvalue : Nat.ofDigitChars 10 ds (d.toNat - '0'.toNat) = lead.natAbs := by
    have h := Nat.ofDigitChars_ten_toDigits (n := lead.natAbs)
    rwa [hdigits, Nat.ofDigitChars_cons, Nat.mul_zero, Nat.zero_add] at h
  rw [List.foldlM_cons, hletter, Option.bind_eq_bind, Option.bind_some, List.foldlM_cons, hsign,
    Option.bind_eq_bind, Option.bind_some, hdigits, List.foldlM_cons, hfirst _ rfl, Option.bind_eq_bind,
    Option.bind_some, foldlM_more?_power rfl hds]
  simpa [powerDigit, withLetter, hpower] using hvalue

/-- A number with a power of ten is not too great if what is written is not. -/
theorem Front.readable_exponent (h : n.Front) (hds : ∀ c ∈ ds, c.isDigit = true) {lead : Int}
    (hmodest : Modest (Nat.ofDigitChars 10 ds n.significand * 10 ^ (lead - ds.length))) :
    ∃ m, ((if ds.isEmpty then [] else '.' :: ds) ++
        ('e' :: (if lead < 0 then '-' else '+') :: Nat.toDigits 10 lead.natAbs)).foldlM more? n = some m ∧
      m.Readable := by
  obtain ⟨m, hfront, hpart, hnegative, hpower, hkept⟩ := h.kept_le hds
  have hexponent := foldlM_more?_exponent hpart hnegative hpower lead
  have hread := congrArg (· >>= ('e' :: (if lead < 0 then '-' else '+') ::
    Nat.toDigits 10 lead.natAbs).foldlM more?) hfront
  rw [← List.foldlM_append, Option.bind_eq_bind, Option.bind_some, hexponent] at hread
  refine ⟨_, hread, significand_foldlM h.fits hread, rfl, rfl, ?_⟩
  have hlead : exponent { m with
      part := .power, isReal := true, powerNegative := lead < 0, power := lead.natAbs } = m.shift + lead := by
    unfold exponent
    simp only [decide_eq_true_eq]
    split <;> omega
  rw [hlead]
  refine le_trans ?_ hmodest
  rw [sub_eq_neg_add, zpow_add₀ (by norm_num), zpow_add₀ (by norm_num), ← mul_assoc, ← mul_assoc]
  exact mul_le_mul_of_nonneg_right hkept (by positivity)

end Numeral

/-! ### The layout of a decimal -/

namespace Number

open Numeral Rounding

variable {c : Char} {cs ds tail : List Char} {k : Nat}

theorem ofDigitChars_lt (hds : ∀ c ∈ ds, c.isDigit = true) (k : Nat) :
    Nat.ofDigitChars 10 ds k < (k + 1) * 10 ^ ds.length := by
  induction ds generalizing k with
  | nil => simp
  | cons d ds ih =>
    obtain ⟨hd, hds⟩ := List.forall_mem_cons.mp hds
    have hdigit : d.toNat - '0'.toNat ≤ 9 := le_of_digit? (digit?_of_isDigit hd)
    rw [Nat.ofDigitChars_cons, List.length_cons, Nat.pow_succ']
    calc Nat.ofDigitChars 10 ds (10 * k + (d.toNat - '0'.toNat))
        < (10 * k + (d.toNat - '0'.toNat) + 1) * 10 ^ ds.length := ih hds _
      _ ≤ (k + 1) * 10 * 10 ^ ds.length := Nat.mul_le_mul_right _ (by omega)
      _ = (k + 1) * (10 * 10 ^ ds.length) := Nat.mul_assoc _ _ _

/-- The digits of a number are those that count, and zeros behind them. -/
theorem toDigits_eq_significant (k : Nat) :
    ∃ z, Nat.toDigits 10 k = Decimal.significant k ++ List.replicate z '0' := by
  refine ⟨((Nat.toDigits 10 k).reverse.takeWhile (· == '0')).length, ?_⟩
  have hzeros : (Nat.toDigits 10 k).reverse.takeWhile (· == '0') = List.replicate _ '0' :=
    List.eq_replicate_iff.mpr ⟨rfl, fun c hc => by simpa using List.mem_takeWhile_imp hc⟩
  calc Nat.toDigits 10 k = (Nat.toDigits 10 k).reverse.reverse := (List.reverse_reverse _).symm
    _ = ((Nat.toDigits 10 k).reverse.takeWhile (· == '0') ++
          (Nat.toDigits 10 k).reverse.dropWhile (· == '0')).reverse := by rw [List.takeWhile_append_dropWhile]
    _ = Decimal.significant k ++ List.replicate _ '0' := by
      rw [List.reverse_append, hzeros, List.reverse_replicate, Decimal.significant, List.length_replicate]

/-- A number that is not zero begins with another digit, whether its last zeros are written or not. -/
theorem significant_eq (hk : 0 < k) : ∃ c tail z, Decimal.significant k = c :: tail ∧
    Nat.toDigits 10 k = c :: tail ++ List.replicate z '0' ∧ c.toNat - '0'.toNat ≠ 0 := by
  obtain ⟨z, hdigits⟩ := toDigits_eq_significant k
  obtain ⟨c, cs, hwritten, hc⟩ := toDigits_head hk
  cases hkept : Decimal.significant k with
  | nil =>
    rw [hkept, hwritten, List.nil_append] at hdigits
    have hzero : c = '0' := List.eq_of_mem_replicate (hdigits ▸ List.mem_cons_self)
    exact absurd (by rw [hzero]; rfl) hc
  | cons c' tail =>
    rw [hkept] at hdigits
    have hhead : c = c' := (List.cons.inj (hwritten.symm.trans hdigits)).1
    exact ⟨c', tail, z, rfl, hdigits, hhead ▸ hc⟩

/-- The value of a decimal, by the first of its digits and those behind it that count. -/
theorem value_eq {d : Decimal.Scaled} {z : Nat}
    (h : Nat.toDigits 10 d.digits = c :: tail ++ List.replicate z '0') :
    d.value = Nat.ofDigitChars 10 tail (c.toNat - '0'.toNat) *
      10 ^ (d.exponent + ((Nat.toDigits 10 d.digits).length - 1 : Nat) - tail.length) := by
  have hdigits := Nat.ofDigitChars_ten_toDigits (n := d.digits)
  have hlength : (Nat.toDigits 10 d.digits).length - 1 = tail.length + z := by simp [h]
  have hexponent : d.exponent + (tail.length + z : Nat) - tail.length = z + d.exponent := by omega
  rw [h, Nat.ofDigitChars_append, Nat.ofDigitChars_replicate_zero, Nat.ofDigitChars_cons, Nat.mul_zero,
    Nat.zero_add] at hdigits
  rw [Decimal.Scaled.value, hlength, hexponent, zpow_add₀ (by norm_num), zpow_natCast, ← hdigits]
  push_cast
  ring

/-- The texts of a decimal: with a point behind its first digits, or with a power of ten behind all. -/
inductive Shape (d : Decimal.Scaled) : List Char → Prop where
  | point {c : Char} {cs ds : List Char} (hc : c.isDigit = true) (hcs : ∀ c ∈ cs, c.isDigit = true)
      (hlength : cs.length ≤ 15) (hzero : c.toNat - '0'.toNat ≠ 0 ∨ cs = []) (hds : ∀ c ∈ ds, c.isDigit = true)
      (hne : ds ≠ []) :
      Shape d (c :: (cs ++ '.' :: ds))
  | power {c : Char} {ds : List Char} {lead : Int} (hc : c.isDigit = true) (hds : ∀ c ∈ ds, c.isDigit = true)
      (hvalue : d.value = Nat.ofDigitChars 10 ds (c.toNat - '0'.toNat) * 10 ^ (lead - ds.length)) :
      Shape d (c :: ((if ds.isEmpty then [] else '.' :: ds) ++
        ('e' :: (if lead < 0 then '-' else '+') :: Nat.toDigits 10 lead.natAbs)))

theorem shape_render {d : Decimal.Scaled} (hd : 0 < d.digits) : Shape d (layout.render d) := by
  obtain ⟨c, tail, z, hkept, hwritten, hc⟩ := significant_eq hd
  obtain ⟨hdigit, hrest⟩ := List.forall_mem_cons.mp (hwritten ▸ isDigit_toDigits d.digits)
  obtain ⟨htail, -⟩ := List.forall_mem_append.mp hrest
  have hzeros : ∀ k, ∀ c ∈ List.replicate k '0', c.isDigit = true := fun k c h => by
    rw [List.eq_of_mem_replicate h]
    rfl
  have hvalue := value_eq hwritten
  unfold Decimal.Layout.render
  rw [hkept]
  dsimp only
  generalize d.exponent + ((Nat.toDigits 10 d.digits).length - 1 : Nat) = lead at hvalue ⊢
  split
  · rename_i hplain
    obtain ⟨-, hgreat⟩ : layout.plainFrom ≤ lead ∧ lead ≤ layout.plainTo := by simpa using hplain
    split
    · have hfraction : ∀ b ∈ List.replicate (-lead - 1).toNat '0' ++ c :: tail, b.isDigit = true :=
        List.forall_mem_append.mpr ⟨hzeros _, List.forall_mem_cons.mpr ⟨hdigit, htail⟩⟩
      rw [List.cons_append, List.cons_append, ← List.nil_append ('.' :: _)]
      exact .point (by decide) nofun (Nat.zero_le _) (Or.inr rfl) hfraction (by simp)
    · -- Sixteen digits stand before the point at most.
      have hgreat : lead ≤ 15 := hgreat
      have hlength : (tail.take lead.toNat ++
          List.replicate (lead + 1 - (c :: tail).length).toNat '0').length ≤ 15 := by
        rw [List.length_append, List.length_take, List.length_replicate, List.length_cons]
        omega
      have hwhole : ∀ b ∈ tail.take lead.toNat ++
          List.replicate (lead + 1 - (c :: tail).length).toNat '0', b.isDigit = true :=
        List.forall_mem_append.mpr ⟨fun b h => htail b (List.mem_of_mem_take h), hzeros _⟩
      rw [List.take_succ_cons, List.drop_succ_cons, List.cons_append, List.cons_append]
      cases hpart : tail.drop lead.toNat with
      | nil => exact .point hdigit hwhole hlength (Or.inl hc) (hzeros 1) (List.cons_ne_nil _ _)
      | cons d part =>
        have hfraction : ∀ c ∈ d :: part, c.isDigit = true := fun c h =>
          htail c (List.mem_of_mem_drop (hpart ▸ h))
        exact .point hdigit hwhole hlength (Or.inl hc) hfraction (List.cons_ne_nil _ _)
  · have hsign : (if lead < 0 then ['-'] else if layout.plusSign then ['+'] else []) =
        [if lead < 0 then '-' else '+'] := by
      split <;> rfl
    rw [hsign, List.append_assoc, List.append_assoc, List.append_assoc]
    exact .power hdigit htail hvalue

/-- Where the point stands among the digits or before them, what is read is not too great. -/
theorem readable_point (negative : Bool) (hc : c.isDigit = true) (hcs : ∀ c ∈ cs, c.isDigit = true)
    (hzero : c.toNat - '0'.toNat ≠ 0 ∨ cs = []) (hlength : cs.length ≤ 15) (hds : ∀ c ∈ ds, c.isDigit = true)
    (hne : ds ≠ []) :
    ∃ m, ofChars? ((if negative then ['-'] else []) ++ c :: (cs ++ '.' :: ds)) = some m ∧ m.Readable := by
  have hdigit : c.toNat - '0'.toNat ≤ 9 := le_of_digit? (digit?_of_isDigit hc)
  have hfits : Nat.ofDigitChars 10 cs (c.toNat - '0'.toNat) ≤ maxUnsigned := by
    have hlt := ofDigitChars_lt hcs (c.toNat - '0'.toNat)
    have hpower : 10 ^ cs.length ≤ 10 ^ 15 := Nat.pow_le_pow_right (by decide) hlength
    have hmax : (9 + 1) * 10 ^ 15 ≤ maxUnsigned := by decide
    have hbound : (c.toNat - '0'.toNat + 1) * 10 ^ cs.length ≤ (9 + 1) * 10 ^ 15 :=
      Nat.mul_le_mul (by omega) hpower
    omega
  obtain ⟨n, hread, hfront⟩ :
      ∃ n, cs.foldlM more? (first negative (c.toNat - '0'.toNat)) = some n ∧ n.Front := by
    rcases hzero with hzero | rfl
    · have hpart : (first negative (c.toNat - '0'.toNat)).part = .whole := if_neg hzero
      exact ⟨_, foldlM_more?_digits hpart rfl hcs hfits, Or.inr hpart, hfits, rfl, rfl, rfl, rfl⟩
    · exact ⟨_, rfl, front_first hdigit⟩
  rw [ofChars?_first negative hc, List.foldlM_append, hread]
  exact hfront.readable_fraction hds hne

/-- However a decimal is laid out, its text is read, unless the decimal is too great. -/
theorem Shape.readable (negative : Bool) {d : Decimal.Scaled} (h : Shape d cs) (hmodest : Modest d.value) :
    ∃ m, ofChars? ((if negative then ['-'] else []) ++ cs) = some m ∧ m.Readable := by
  cases h with
  | point hc hcs hlength hzero hds hne => exact readable_point negative hc hcs hzero hlength hds hne
  | power hc hds hvalue =>
    rw [ofChars?_first negative hc]
    exact (front_first (le_of_digit? (digit?_of_isDigit hc))).readable_exponent hds (hvalue ▸ hmodest)

/-- The last doubles before infinity are read, though what is written of them is greater than they are. -/
theorem isSome_last : ∀ m < 3, ∀ negative : Bool,
    ((ofChars? ((if negative then ['-'] else []) ++
      layout.render (Decimal.shortest ⟨0x1FFFFFFFFFFFFD + m, 971⟩))).bind Numeral.ended?).isSome = true := by
  decide +kernel

/-- Half a unit more than a double is not too great, the last three doubles apart. -/
theorem modest_half {b : Decimal.Binary} (hm : b.mantissa < 2 ^ 53) (he : b.exponent ≤ 971)
    (hlast : b.exponent = 971 → b.mantissa < 0x1FFFFFFFFFFFFD) :
    Modest ((b.mantissa + 1 / 2) * 2 ^ b.exponent) := by
  have hdouble : (2 : ℚ) ^ (971 : Int) = 2 * 2 ^ (970 : Int) := zpow_one_add₀ two_ne_zero 970
  rcases he.lt_or_eq with he | he
  · have hmantissa : (b.mantissa : ℚ) ≤ 2 ^ 53 := mod_cast hm.le
    have hunit : (2 : ℚ) ^ b.exponent ≤ 2 ^ (970 : Int) := zpow_le_zpow_right₀ one_le_two (by omega)
    calc (b.mantissa + 1 / 2 : ℚ) * 2 ^ b.exponent ≤ (2 ^ 53 + 1 / 2) * 2 ^ (970 : Int) := by gcongr
      _ ≤ (2 ^ 54 - 7) * 2 ^ (970 : Int) := by gcongr; norm_num
  · have hmantissa : (b.mantissa : ℚ) ≤ 0x1FFFFFFFFFFFFC := mod_cast Nat.le_of_lt_succ (hlast he)
    rw [he, hdouble, ← mul_assoc]
    have hunit : (0 : ℚ) < 2 ^ (970 : Int) := by positivity
    refine mul_le_mul_of_nonneg_right ?_ hunit.le
    linarith

theorem ofBits_le {bits : UInt64} (h : isFinite bits = true) :
    (Decimal.Binary.ofBits bits).mantissa < 2 ^ 53 ∧ (Decimal.Binary.ofBits bits).exponent ≤ 971 := by
  have hbiased : Decimal.Binary.biasedExponent bits < 0x800 := Nat.mod_lt _ (by decide)
  have hfinite : Decimal.Binary.biasedExponent bits ≠ 0x7FF := by simpa [isFinite] using h
  have hfraction : bits.toNat % Decimal.Binary.leadingBit < 2 ^ 52 := Nat.mod_lt _ (by decide)
  have hleading : Decimal.Binary.leadingBit = 2 ^ 52 := rfl
  rw [Decimal.Binary.ofBits]
  split
  · exact ⟨by dsimp only; omega, Int.le_of_lt (by decide : (-1074 : Int) < 971)⟩
  · exact ⟨by dsimp only; omega, by dsimp only; omega⟩

/-- The digits of a finite double are read, behind a minus sign or not. -/
theorem isSome_digits (negative : Bool) {b : Decimal.Binary} (hm : b.mantissa < 2 ^ 53)
    (he : b.exponent ≤ 971) :
    ((ofChars? ((if negative then ['-'] else []) ++
        if b.mantissa = 0 then ['0', '.', '0'] else layout.render (Decimal.shortest b))).bind
      Numeral.ended?).isSome = true := by
  have hended : ∀ {cs : List Char}, (∃ m, ofChars? cs = some m ∧ m.Readable) →
      ((ofChars? cs).bind Numeral.ended?).isSome = true := by
    rintro cs ⟨m, hread, hm⟩
    rw [hread, Option.bind_some]
    exact hm.ended?
  by_cases hzero : b.mantissa = 0
  · rw [if_pos hzero]
    have hread : ∃ m, ofChars? ((if negative then ['-'] else []) ++ '0' :: ([] ++ '.' :: ['0'])) = some m ∧
        m.Readable :=
      readable_point negative rfl nofun (Or.inr rfl) (Nat.zero_le _) (List.forall_mem_singleton.mpr rfl)
        (List.cons_ne_nil _ _)
    exact hended hread
  · rw [if_neg hzero]
    by_cases hlast : b.exponent = 971 ∧ 0x1FFFFFFFFFFFFD ≤ b.mantissa
    · obtain ⟨m, e⟩ := b
      obtain ⟨rfl, hm'⟩ : e = 971 ∧ 0x1FFFFFFFFFFFFD ≤ m := hlast
      obtain ⟨k, rfl⟩ := Nat.exists_eq_add_of_le hm'
      have hk : k < 3 := by
        dsimp only at hm
        omega
      exact isSome_last k hk negative
    · obtain ⟨hpos, hle⟩ := Decimal.value_shortest_le (Nat.pos_of_ne_zero hzero)
      exact hended ((shape_render hpos).readable negative (le_trans hle (modest_half hm he (by omega))))

/-- The text of every number that a text can hold is read as a number. -/
theorem reread_isSome {n : Number} (h : n.Canonical) : n.reread.isSome = true := by
  cases n with
  | int i => rw [reread_int h]; rfl
  | float bits =>
    obtain ⟨hmantissa, hexponent⟩ := ofBits_le h
    have htext : (float bits).text = (if Decimal.Binary.isNegative bits then ['-'] else []) ++
        if (Decimal.Binary.ofBits bits).mantissa = 0 then ['0', '.', '0']
        else layout.render (Decimal.shortest (.ofBits bits)) := by
      cases hsign : Decimal.Binary.isNegative bits <;> simp [text, hsign]
    rw [reread, htext]
    exact isSome_digits _ hmantissa hexponent

end Number

end LanguageServer.Json
