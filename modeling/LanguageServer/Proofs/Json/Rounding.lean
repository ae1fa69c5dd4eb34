import Mathlib
import LanguageServer.Json.Numeral
import LanguageServer.Proofs.Decimal.Shortest

/-! How far rounding leads. Doubles are numbers `m · 2^e` with 53 bits in `m`, and operations on them round
    to the next one, so a result is greater than it should be by half a unit at most
    (`roundWithAccuracy_le`). The reader makes a double of a whole number and a power of ten, and rounds
    both of them and their product. So there is a double unless the product is within the last few doubles
    before infinity (`isSome_scale?`). -/

namespace LanguageServer.Json.Rounding

open Decimal (Binary)
open Float.Model
open Float.Model.UnpackedFloat

variable {m k : Nat} {e : Int} {s : Sign} {f g : Float} {b c : Binary}

/-! ### Moving the bits of a mantissa -/

/-- A mantissa of which nothing is dropped yet. -/
def exactly (m : Nat) : ExtendedMantissa := ⟨m, false, false⟩

theorem shiftRight_succ (em : ExtendedMantissa) (k : Nat) : em >>> (k + 1) = (em >>> k).shiftRightOne := rfl

theorem mantissa_shiftRight (m k : Nat) : (exactly m >>> k).mantissa = m / 2 ^ k := by
  induction k with
  | zero => exact (Nat.div_one m).symm
  | succ k ih =>
    rw [shiftRight_succ, ExtendedMantissa.shiftRightOne, ih, Nat.div_div_eq_div_mul, Nat.pow_succ]

/-- The first bit that is dropped counts a half. -/
theorem roundBit_shiftRight (m k : Nat) :
    2 * (exactly m >>> k).mantissa * 2 ^ k + (exactly m >>> k).roundBit.toNat * 2 ^ k ≤ 2 * m := by
  induction k with
  | zero =>
    change 2 * m * 1 + 0 * 1 ≤ 2 * m
    omega
  | succ k ih =>
    rw [shiftRight_succ]
    generalize exactly m >>> k = em at ih ⊢
    have hbit : (em.mantissa % 2 != 0).toNat = em.mantissa % 2 := by
      rcases Nat.mod_two_eq_zero_or_one em.mantissa with h | h <;> rw [h] <;> rfl
    simp only [ExtendedMantissa.shiftRightOne, hbit]
    calc 2 * (em.mantissa / 2) * 2 ^ (k + 1) + em.mantissa % 2 * 2 ^ (k + 1)
        = (2 * (em.mantissa / 2) + em.mantissa % 2) * 2 ^ (k + 1) := by rw [Nat.add_mul]
      _ = em.mantissa * 2 ^ (k + 1) := by rw [Nat.div_add_mod]
      _ = 2 * em.mantissa * 2 ^ k := by rw [Nat.pow_succ]; ring
      _ ≤ 2 * m := by omega

theorem roundedMantissa_le (em : ExtendedMantissa) :
    em.mantissa ≤ em.roundedMantissa ∧ em.roundedMantissa ≤ em.mantissa + em.roundBit.toNat := by
  obtain ⟨m, round, sticky⟩ := em
  cases round <;> cases sticky <;>
    simp [ExtendedMantissa.roundedMantissa, ExtendedMantissa.accuracy, Accuracy.roundToNearestEven]
  omega

/-- A mantissa is rounded up by half a unit at most. -/
theorem roundedMantissa_shiftRight (m k : Nat) :
    m / 2 ^ k ≤ (exactly m >>> k).roundedMantissa ∧
      2 * (exactly m >>> k).roundedMantissa * 2 ^ k ≤ 2 * m + 2 ^ k := by
  obtain ⟨hlow, hhigh⟩ := roundedMantissa_le (exactly m >>> k)
  have hbit := roundBit_shiftRight m k
  rw [mantissa_shiftRight] at hlow
  refine ⟨hlow, ?_⟩
  generalize exactly m >>> k = em at hhigh hbit ⊢
  have hone : em.roundBit.toNat * 2 ^ k ≤ 1 * 2 ^ k := Nat.mul_le_mul_right _ (Bool.toNat_le _)
  calc 2 * em.roundedMantissa * 2 ^ k
      ≤ 2 * (em.mantissa + em.roundBit.toNat) * 2 ^ k := by gcongr
    _ = 2 * em.mantissa * 2 ^ k + em.roundBit.toNat * 2 ^ k + em.roundBit.toNat * 2 ^ k := by ring
    _ ≤ 2 * m + 2 ^ k := by omega

/-! ### Rounding -/

theorem targetExponent_eq (m : Nat) (e : Int) :
    Format.binary64.targetExponent (totalExponent m e) = max (m.log2 + e - 52) (-1074) := by
  simp only [Format.targetExponent, totalExponent, Format.mantissaBits, Format.minExponent]
  norm_num
  omega

/-- A mantissa with bits enough loses all but 53 of them. -/
theorem shiftToTargetExponent_eq (hk : m.log2 = 52 + k) (he : -1022 ≤ m.log2 + e) :
    shiftToTargetExponent .binary64 m e .exact = (exactly m >>> k, e + k) := by
  have hshift : (max (m.log2 + e - 52) (-1074) - e).toNat = k := by omega
  rw [shiftToTargetExponent.eq_1, targetExponent_eq, shiftToExponent.eq_1, hshift]
  rfl

theorem ne_zero_of_log2 (hk : m.log2 = 52 + k) : m ≠ 0 := by
  rintro rfl
  simp at hk
  omega

theorem log2_div (hk : m.log2 = 52 + k) : m / 2 ^ k ≠ 0 ∧ (m / 2 ^ k).log2 = 52 := by
  have hm := ne_zero_of_log2 hk
  obtain ⟨hlow, hhigh⟩ := (Nat.log2_eq_iff hm).mp hk
  have hpos : 0 < 2 ^ k := Nat.two_pow_pos k
  have hlow' : 2 ^ 52 ≤ m / 2 ^ k := by
    rw [Nat.le_div_iff_mul_le hpos, ← Nat.pow_add]
    exact hlow
  have hhigh' : m / 2 ^ k < 2 ^ 53 := by
    rw [Nat.div_lt_iff_lt_mul hpos, ← Nat.pow_add]
    convert hhigh using 2
    omega
  have hne : m / 2 ^ k ≠ 0 := by omega
  exact ⟨hne, (Nat.log2_eq_iff hne).mpr ⟨hlow', hhigh'⟩⟩

/-- A number with bits enough is rounded to a mantissa of 53 bits. It becomes greater by half a unit at most. -/
theorem roundWithAccuracy_le (s : Sign) (hk : m.log2 = 52 + k) (he : -1022 ≤ m.log2 + e) :
    ∃ (b : Binary) (hb : 0 < b.mantissa),
      roundWithAccuracy .binary64 s m e .exact = .finite s b.mantissa b.exponent hb ∧ b.mantissa.log2 = 52 ∧
        e + k ≤ b.exponent ∧ b.value ≤ m * 2 ^ e + 2 ^ (e + k - 1) := by
  obtain ⟨hlow, hhigh⟩ := roundedMantissa_shiftRight m k
  have hfirst := shiftToTargetExponent_eq hk he
  generalize hr : (exactly m >>> k).roundedMantissa = r at hlow hhigh
  -- The mantissa may have one bit too many after rounding.
  obtain ⟨hne, hlog⟩ := log2_div hk
  obtain ⟨j, hj⟩ : ∃ j, r.log2 = 52 + j := by
    refine Nat.exists_eq_add_of_le ?_
    have hr : r ≠ 0 := fun h => hne (Nat.le_zero.mp (h ▸ hlow))
    rw [Nat.le_log2 hr]
    exact ((Nat.log2_eq_iff hne).mp hlog).1.trans hlow
  have hsecond := shiftToTargetExponent_eq (e := e + k) hj (by omega)
  obtain ⟨hpos, hlast⟩ := log2_div hj
  refine ⟨⟨r / 2 ^ j, e + k + j⟩, Nat.pos_of_ne_zero hpos, ?_, hlast, by simp, ?_⟩
  · rw [roundWithAccuracy.eq_1, hfirst]
    dsimp only
    rw [hr, hsecond]
    dsimp only
    rw [dif_neg (by rw [mantissa_shiftRight]; exact hpos)]
    simp only [mantissa_shiftRight]
  · have hcut : ((r / 2 ^ j : Nat) : ℚ) * 2 ^ j ≤ r := mod_cast Nat.div_mul_le_self r (2 ^ j)
    have hup : (2 : ℚ) * r * 2 ^ k ≤ 2 * m + 2 ^ k := mod_cast hhigh
    simp only [Binary.value, zpow_add₀ (two_ne_zero' ℚ), zpow_sub₀ (two_ne_zero' ℚ), zpow_natCast, zpow_one]
    calc ((r / 2 ^ j : Nat) : ℚ) * (2 ^ e * 2 ^ k * 2 ^ j)
        = ((r / 2 ^ j : Nat) : ℚ) * 2 ^ j * (2 ^ e * 2 ^ k) := by ring
      _ ≤ r * (2 ^ e * 2 ^ k) := by gcongr
      _ = 2 * r * 2 ^ k * 2 ^ e / 2 := by ring
      _ ≤ (2 * m + 2 ^ k) * 2 ^ e / 2 := by gcongr
      _ = m * 2 ^ e + 2 ^ e * 2 ^ k / 2 := by ring

/-! ### Doubles -/

/-- The mantissa and the exponent of a double that is no zero, no infinity and no NaN. -/
def size? (f : Float) : Option Binary :=
  match f.toModel.unpack with
  | .finite _ m e _ => some ⟨m, e⟩
  | _ => none

/-- A double from one upwards, by its mantissa of 53 bits and its exponent. -/
structure Normal (f : Float) (b : Binary) : Prop where
  size : size? f = some b
  bits : b.mantissa.log2 = 52
  low : -52 ≤ b.exponent

theorem Normal.unpack (h : Normal f b) : ∃ s hb, f.toModel.unpack = .finite s b.mantissa b.exponent hb := by
  have hsize := h.size
  unfold size? at hsize
  split at hsize
  · rename_i hunpack
    cases hsize
    exact ⟨_, _, hunpack⟩
  · cases hsize

theorem Normal.isInf (h : Normal f b) : f.isInf = false := by
  obtain ⟨s, hb, hunpack⟩ := h.unpack
  change f.toModel.unpack.isInf = false
  rw [hunpack]
  rfl

/-- The leading bit is not stored. -/
theorem toNat_append_one (hbits : m.log2 = 52) : (1#1 ++ BitVec.ofNat 52 m).toNat = m := by
  have hm : m ≠ 0 := ne_zero_of_log2 (k := 0) hbits
  obtain ⟨hlow, hhigh⟩ := (Nat.log2_eq_iff hm).mp hbits
  rw [BitVec.toNat_append, ← Nat.shiftLeft_add_eq_or_of_lt (BitVec.isLt _), BitVec.toNat_ofNat]
  simp only [BitVec.toNat_ofNat, Nat.shiftLeft_eq]
  omega

/-- A mantissa of 53 bits and an exponent that is not too great are kept. -/
theorem size?_pack (s : Sign) (hm : 0 < m) (hbits : m.log2 = 52) (hlow : -1074 ≤ e) (hhigh : e ≤ 971) :
    size? (.ofModel (pack (.finite s m e hm))) = some ⟨m, e⟩ := by
  obtain ⟨k, hk⟩ : ∃ k : Nat, e + 1075 = k := Int.eq_ofNat_of_zero_le (by omega)
  have hbias : Format.binary64.exponentBias = 1023 := rfl
  have hbiased :
      (e + Format.binary64.exponentBias + Format.binary64.mantissaBitsWithoutImplicit).toNat = k := by
    rw [hbias]
    dsimp only
    omega
  have hpack : UnpackedFloat.pack .binary64 (.finite s m e hm) =
      packComponents .binary64 s (BitVec.ofNat 11 k) (BitVec.ofNat 52 m) := by
    rw [UnpackedFloat.pack.eq_4, hbiased, if_neg (by dsimp only; omega), if_pos (by rw [hbits]; rfl)]
  have hunpack : (pack (.finite s m e hm)).unpack =
      UnpackedFloat.unpack .binary64 (packComponents .binary64 s (BitVec.ofNat 11 k) (BitVec.ofNat 52 m)) := by
    rw [← hpack]
    rfl
  -- The bits of the exponent are neither all set nor all clear.
  have hstored : (BitVec.ofNat 11 k).toNat = k := by
    rw [BitVec.toNat_ofNat, Nat.mod_eq_of_lt (by omega)]
  have hset : BitVec.ofNat 11 k ≠ -1#11 := by
    intro h
    have hall : k = 2047 := hstored.symm.trans (congrArg BitVec.toNat h)
    omega
  have hclear : BitVec.ofNat 11 k ≠ 0#11 := by
    intro h
    have hnone : k = 0 := hstored.symm.trans (congrArg BitVec.toNat h)
    omega
  rw [size?, hunpack, UnpackedFloat.unpack]
  simp only [unpackExponent_packComponents, unpackMantissa_packComponents, if_neg hset, if_neg hclear,
    toNat_append_one hbits, hstored, hbias]
  congr 2
  omega

theorem two_zpow_le {m : Nat} (hm : m ≠ 0) (e : Int) : (2 : ℚ) ^ (m.log2 + e) ≤ m * 2 ^ e := by
  have hleast : (2 : ℚ) ^ m.log2 ≤ m := mod_cast Nat.log2_self_le hm
  rw [zpow_add₀ two_ne_zero, zpow_natCast]
  gcongr

/-- The least number that is rounded to infinity, half a unit below the power of two behind the doubles. -/
def limit : ℚ := 2 ^ (1024 : Int) - 2 ^ (970 : Int)

theorem two_zpow_le_limit : (2 : ℚ) ^ (1023 : Int) ≤ limit := by
  have hunit : (2 : ℚ) ^ (970 : Int) ≤ 2 ^ (1023 : Int) := zpow_le_zpow_right₀ one_le_two (by decide)
  have hdouble : (2 : ℚ) ^ (1024 : Int) = 2 ^ (1023 : Int) * 2 := zpow_add_one₀ two_ne_zero 1023
  rw [limit, hdouble, mul_two, le_sub_iff_add_le]
  gcongr

/-- A number from one upwards that is below the end of the doubles is rounded to a double. -/
theorem normal_round (s : Sign) (hk : m.log2 = 52 + k) (hlow : -52 ≤ e + k)
    (hhigh : (m : ℚ) * 2 ^ e < limit) :
    ∃ b, Normal (.ofModel (pack (roundWithAccuracy .binary64 s m e .exact))) b ∧
      b.value ≤ m * 2 ^ e + 2 ^ (e + k - 1) := by
  obtain ⟨b, hb, hround, hbits, hexponent, hvalue⟩ := roundWithAccuracy_le s hk (e := e) (by omega)
  refine ⟨b, ⟨?_, hbits, by omega⟩, hvalue⟩
  have hm := ne_zero_of_log2 hk
  have hunit : e + k - 1 ≤ 970 := by
    have hend : (2 : ℚ) ^ (m.log2 + e) < 2 ^ (1024 : Int) :=
      (two_zpow_le hm e).trans_lt (hhigh.trans (sub_lt_self _ (by positivity)))
    have := (zpow_lt_zpow_iff_right₀ one_lt_two).mp hend
    omega
  -- The number is not within the last half unit, so the double is not beyond the end.
  have hend : (2 : ℚ) ^ (b.mantissa.log2 + b.exponent) < 2 ^ (1024 : Int) := by
    have hhalf : (2 : ℚ) ^ (e + k - 1) ≤ 2 ^ (970 : Int) := zpow_le_zpow_right₀ one_le_two hunit
    calc (2 : ℚ) ^ (b.mantissa.log2 + b.exponent) ≤ b.value := two_zpow_le hb.ne' _
      _ ≤ m * 2 ^ e + 2 ^ (e + k - 1) := hvalue
      _ < 2 ^ (1024 : Int) := by
        rw [limit] at hhigh
        linarith only [hhigh, hhalf]
  have hexponents := (zpow_lt_zpow_iff_right₀ one_lt_two).mp hend
  rw [hround]
  exact size?_pack s hb hbits (by omega) (by omega)

/-- The relative error of rounding. -/
theorem half_le (hm : m ≠ 0) (hk : m.log2 = 52 + k) : (2 : ℚ) ^ (e + k - 1) ≤ m * 2 ^ e / 2 ^ 53 := by
  have h := two_zpow_le hm e
  rw [le_div_iff₀ (by positivity), ← zpow_natCast, ← zpow_add₀ two_ne_zero]
  refine le_trans (le_of_eq ?_) h
  congr 1
  omega

/-! ### Whole numbers, powers of ten, and products -/

theorem log2_mul_two_pow (hm : m ≠ 0) (k : Nat) : (m * 2 ^ k).log2 = m.log2 + k := by
  obtain ⟨hlow, hhigh⟩ := (Nat.log2_eq_iff hm).mp rfl
  have hpos : 0 < 2 ^ k := Nat.two_pow_pos k
  rw [Nat.log2_eq_iff (Nat.mul_ne_zero hm hpos.ne'), Nat.add_right_comm, Nat.pow_add, Nat.pow_add _ _ k]
  exact ⟨Nat.mul_le_mul_right _ hlow, Nat.mul_lt_mul_of_pos_right hhigh hpos⟩

/-- A whole number that is rounded becomes greater by the `2^53`-th part of it at most. -/
theorem normal_whole {j : Nat} (hm : m ≠ 0) (hbits : m.log2 + j = 52 + k) (hhigh : (m : ℚ) < limit) :
    ∃ b, Normal (.ofModel (pack (roundWithAccuracy .binary64 .positive (m * 2 ^ j) (-j) .exact))) b ∧
      b.value ≤ m * (1 + 1 / 2 ^ 53) := by
  have hne : m * 2 ^ j ≠ 0 := Nat.mul_ne_zero hm (Nat.two_pow_pos j).ne'
  have hlog : (m * 2 ^ j).log2 = 52 + k := (log2_mul_two_pow hm j).trans hbits
  have hvalue : ((m * 2 ^ j : Nat) : ℚ) * 2 ^ (-j : Int) = m := by
    rw [zpow_neg, zpow_natCast]
    push_cast
    field_simp
  obtain ⟨b, hb, hle⟩ := normal_round .positive hlog (e := -j) (by omega) (hvalue ▸ hhigh)
  have hhalf := half_le (e := -j) hne hlog
  rw [hvalue] at hle hhalf
  rw [mul_add, mul_one, mul_one_div]
  exact ⟨b, hb, hle.trans (add_le_add_right hhalf _)⟩

theorem normal_toFloat (n : UInt64) (hn : n.toNat ≠ 0) :
    ∃ b, Normal n.toFloat b ∧ b.value ≤ n.toNat * (1 + 1 / 2 ^ 53) := by
  have hlog : n.toNat.log2 < 64 := (Nat.log2_lt hn).mpr n.toNat_lt
  have hround : n.toFloat = .ofModel (pack (roundWithAccuracy .binary64 .positive
      (n.toNat * 2 ^ (52 - n.toNat.log2)) (-(52 - n.toNat.log2 : Nat)) .exact)) := by
    have hnormal : n.toFloat = .ofModel (pack (UnpackedFloat.round .binary64 .positive n.toNat 0)) := by
      change Float.ofModel (pack (UnpackedFloat.normalize .binary64 n.toNat 0 .positive)) = _
      have hcompare : compare (n.toNat : Int) 0 = .gt := Int.compare_eq_gt.mpr (by omega)
      rw [UnpackedFloat.normalize, hcompare]
      rfl
    have htarget : (0 - max ((n.toNat.log2 : Int) + 0 - 52) (-1074)).toNat = 52 - n.toNat.log2 := by omega
    rw [hnormal, UnpackedFloat.round, targetExponent_eq, decreaseExponent, htarget, Nat.shiftLeft_eq, zero_sub]
  have hhigh : (n.toNat : ℚ) < limit := by
    have hword : (n.toNat : ℚ) < 2 ^ 64 := mod_cast n.toNat_lt
    have hpower : (2 : ℚ) ^ (64 : Int) ≤ 2 ^ (1023 : Int) := zpow_le_zpow_right₀ one_le_two (by decide)
    exact hword.trans_le (hpower.trans two_zpow_le_limit)
  rw [hround]
  exact normal_whole (k := n.toNat.log2 - 52) hn (by omega) hhigh

/-- The powers of ten that doubles hold exactly. -/
theorem size?_tenTo : ∀ k < 23, ∃ b ∈ size? (Numeral.tenTo k), b.mantissa.log2 = 52 ∧ -52 ≤ b.exponent ∧
    b.mantissa * 2 ^ b.exponent.toNat = 10 ^ k * 2 ^ (-b.exponent).toNat := by
  decide +kernel

theorem ten_pow_lt_limit (hk : k ≤ 308) : (10 : ℚ) ^ k < limit := by
  have hlast : (10 : ℚ) ^ 308 + 2 ^ 970 < 2 ^ 1024 := by
    have hnat : 10 ^ 308 + 2 ^ 970 < 2 ^ 1024 := by decide +kernel
    exact_mod_cast hnat
  have hpower : (10 : ℚ) ^ k ≤ 10 ^ 308 := pow_le_pow_right₀ (by norm_num) hk
  refine hpower.trans_lt ?_
  exact lt_sub_iff_add_lt.mpr hlast

theorem normal_tenTo (hk : k ≤ 308) :
    ∃ b, Normal (Numeral.tenTo k) b ∧ b.value ≤ 10 ^ k * (1 + 1 / 2 ^ 53) := by
  by_cases hsmall : k < 23
  · obtain ⟨b, hsize, hbits, hlow, hexact⟩ := size?_tenTo k hsmall
    refine ⟨b, ⟨hsize, hbits, hlow⟩, ?_⟩
    have hpower := Decimal.zpow_mul_toNat (x := 2) two_ne_zero b.exponent
    have hexact : (b.mantissa : ℚ) * 2 ^ b.exponent.toNat = 10 ^ k * 2 ^ (-b.exponent).toNat := mod_cast hexact
    have hvalue : b.value = 10 ^ k := by
      rw [← hpower, ← mul_assoc] at hexact
      exact mul_right_cancel₀ (by positivity) hexact
    rw [hvalue]
    exact le_mul_of_one_le_right (by positivity) (le_add_of_nonneg_right (by positivity))
  · have hround : Numeral.tenTo k = .ofModel (pack
        (roundWithAccuracy .binary64 .positive (10 ^ k * 2 ^ 53) (-(53 : Nat)) .exact)) := by
      have hmodel : Numeral.tenTo k = .ofModel (Float.Model.ofScientific 1 k) := dif_neg (by omega)
      have hexponents : (2 : Int) ^ Format.binary64.exponentBits = 2048 := rfl
      have hshift : 1 <<< Format.binary64.mantissaBits = 2 ^ 53 := rfl
      rw [hmodel, Float.Model.ofScientific, UnpackedFloat.ofScientific, dif_neg one_ne_zero, if_neg (by omega),
        if_neg (by omega), if_pos (Int.natCast_nonneg k), UnpackedFloat.mul, hshift, Nat.mul_comm]
      rfl
    have hvalue : ((10 ^ k : Nat) : ℚ) = 10 ^ k := by push_cast; rfl
    rw [hround, ← hvalue]
    exact normal_whole (k := (10 ^ k).log2 + 1) (by positivity) (by omega) (hvalue ▸ ten_pow_lt_limit hk)

/-- The product of two doubles is no infinity, if it is below the end of the doubles. -/
theorem isInf_mul (hf : Normal f b) (hg : Normal g c) (h : b.value * c.value < limit) :
    (f * g).isInf = false := by
  obtain ⟨s, hb, hfunpack⟩ := hf.unpack
  obtain ⟨t, hc, hgunpack⟩ := hg.unpack
  have hround : f * g = .ofModel (pack
      (roundWithAccuracy .binary64 (s * t) (b.mantissa * c.mantissa) (b.exponent + c.exponent) .exact)) := by
    change Float.ofModel (pack (UnpackedFloat.mul .binary64 f.toModel.unpack g.toModel.unpack)) = _
    rw [hfunpack, hgunpack]
    rfl
  have hne : b.mantissa * c.mantissa ≠ 0 := Nat.mul_ne_zero hb.ne' hc.ne'
  have hleast : 2 ^ (52 + 52) ≤ b.mantissa * c.mantissa := by
    rw [Nat.pow_add]
    exact Nat.mul_le_mul (((Nat.log2_eq_iff hb.ne').mp hf.bits).1) (((Nat.log2_eq_iff hc.ne').mp hg.bits).1)
  obtain ⟨k, hk⟩ : ∃ k, (b.mantissa * c.mantissa).log2 = 104 + k :=
    Nat.exists_eq_add_of_le ((Nat.le_log2 hne).mpr hleast)
  have hvalue : ((b.mantissa * c.mantissa : Nat) : ℚ) * 2 ^ (b.exponent + c.exponent) = b.value * c.value := by
    rw [Binary.value, Binary.value, zpow_add₀ two_ne_zero]
    push_cast
    ring
  have hlow := hf.low
  have hlow' := hg.low
  obtain ⟨r, hr, -⟩ := normal_round (s * t) (k := 52 + k) (by omega) (by push_cast; omega) (hvalue ▸ h)
  rw [hround]
  exact hr.isInf

/-- A number that is so far below the end of the doubles that two roundings do not lead there. -/
def Modest (x : ℚ) : Prop := x ≤ (2 ^ 54 - 7) * 2 ^ (970 : Int)

theorem Modest.lt_limit {x : ℚ} (h : Modest x) : x * (1 + 1 / 2 ^ 53) ^ 2 < limit := by
  have hend : (2 : ℚ) ^ (1024 : Int) = 2 ^ 54 * 2 ^ (970 : Int) := zpow_add₀ two_ne_zero 54 970
  have herror : (2 ^ 54 - 7) * (1 + 1 / 2 ^ 53) ^ 2 < (2 ^ 54 - 1 : ℚ) := by norm_num
  rw [limit, hend, ← sub_one_mul]
  rw [Modest] at h
  have hunit : (0 : ℚ) < 2 ^ (970 : Int) := by positivity
  generalize (2 : ℚ) ^ (970 : Int) = unit at h hunit ⊢
  calc x * (1 + 1 / 2 ^ 53) ^ 2 ≤ (2 ^ 54 - 7) * unit * (1 + 1 / 2 ^ 53) ^ 2 := by gcongr
    _ = (2 ^ 54 - 7) * (1 + 1 / 2 ^ 53) ^ 2 * unit := mul_right_comm _ _ _
    _ < (2 ^ 54 - 1) * unit := by gcongr

theorem isInf_zero_mul (hg : Normal g c) : (UInt64.toFloat 0 * g).isInf = false := by
  obtain ⟨s, hc, hunpack⟩ := hg.unpack
  have hzero : (UInt64.toFloat 0).toModel.unpack = .zero .positive := rfl
  have hproduct : UInt64.toFloat 0 * g = .ofModel (pack (.zero (.positive * s))) := by
    change Float.ofModel (pack (UnpackedFloat.mul .binary64 _ g.toModel.unpack)) = _
    rw [hzero, hunpack]
    rfl
  rw [hproduct]
  cases s <;> rfl

/-- There is no power of ten in a number that is so small but those that doubles hold. -/
theorem Modest.le_of_ten_pow {n : Nat} (h : Modest (n * 10 ^ k)) (hn : n ≠ 0) : k ≤ 308 := by
  by_contra hk
  have hword : (2 : ℚ) ^ 54 * 2 ^ 970 ≤ 10 ^ 309 := by
    have hnat : 2 ^ 54 * 2 ^ 970 ≤ 10 ^ 309 := by decide +kernel
    exact_mod_cast hnat
  have hone : (1 : ℚ) ≤ n := mod_cast Nat.one_le_iff_ne_zero.mpr hn
  have hunit : (0 : ℚ) < 2 ^ 970 := by positivity
  have hpower : (10 : ℚ) ^ 309 ≤ n * 10 ^ k := by
    calc (10 : ℚ) ^ 309 ≤ 10 ^ k := pow_le_pow_right₀ (by norm_num) (by omega)
      _ ≤ n * 10 ^ k := le_mul_of_one_le_left (by positivity) hone
  have hless : ((2 : ℚ) ^ 54 - 7) * 2 ^ 970 < 2 ^ 54 * 2 ^ 970 := by gcongr; norm_num
  exact absurd (h.trans_lt (hless.trans_le (hword.trans hpower))) (lt_irrefl _)

/-- Where whole numbers make no number that is too great, they make a double. -/
theorem isSome_scale? {n : UInt64} {e : Int} (h : Modest (n.toNat * 10 ^ e)) :
    (Numeral.scale? n.toFloat e).isSome = true := by
  unfold Numeral.scale?
  by_cases he : 0 ≤ e
  · obtain ⟨k, rfl⟩ := Int.eq_ofNat_of_zero_le he
    rw [zpow_natCast] at h
    rw [if_pos he]
    by_cases hn : n.toNat = 0
    · obtain rfl : n = 0 := UInt64.toNat_inj.mp hn
      split
      · obtain ⟨c, hc, -⟩ := normal_tenTo (k := k) (by omega)
        dsimp only
        rw [Int.toNat_natCast, isInf_zero_mul hc]
        rfl
      · rfl
    · have hk : k ≤ 308 := h.le_of_ten_pow hn
      obtain ⟨b, hb, hble⟩ := normal_toFloat n hn
      obtain ⟨c, hc, hcle⟩ := normal_tenTo hk
      have hproduct : b.value * c.value < limit := by
        refine lt_of_le_of_lt ?_ h.lt_limit
        calc b.value * c.value ≤ n.toNat * (1 + 1 / 2 ^ 53) * (10 ^ k * (1 + 1 / 2 ^ 53)) :=
              mul_le_mul hble hcle c.value_nonneg (by positivity)
          _ = n.toNat * 10 ^ k * (1 + 1 / 2 ^ 53) ^ 2 := by ring
      dsimp only
      rw [if_pos (by omega), Int.toNat_natCast, isInf_mul hb hc hproduct]
      rfl
  · rw [if_neg he]
    repeat' split
    all_goals rfl

end LanguageServer.Json.Rounding
