import Mathlib.Algebra.Order.Field.Power
import Mathlib.Data.Nat.Cast.Order.Field
import Mathlib.Data.Rat.Cast.Order
import Mathlib.Tactic.FieldSimp
import Mathlib.Tactic.Linarith
import Mathlib.Tactic.Ring
import LanguageServer.Decimal.Shortest

/-! How great the shortest decimal is. It lies in the interval of the numbers that round to the double, so
    it is greater than the double by half a unit at most (`value_shortest_le`). -/

namespace LanguageServer.Decimal

/-- The number that a mantissa and a power of two stand for. -/
def Binary.value (b : Binary) : ℚ := b.mantissa * 2 ^ b.exponent

/-- The number that digits and a power of ten stand for. -/
def Scaled.value (d : Scaled) : ℚ := d.digits * 10 ^ d.exponent

theorem Binary.value_nonneg (b : Binary) : 0 ≤ b.value := by
  rw [value]
  positivity

variable {b : Binary} {d : Scaled} {g : Int} {steps : Nat}

/-- A power, where what is above zero and what is below stand apart. -/
theorem zpow_mul_toNat {x : ℚ} (hx : x ≠ 0) (k : Int) : x ^ k * (x ^ (-k).toNat : ℚ) = x ^ k.toNat := by
  rw [← zpow_natCast, ← zpow_natCast, ← zpow_add₀ hx]
  congr 1
  omega

/-- A quarter unit of the double, over the unit of the grid. -/
theorem gridUnits_value (b : Binary) (g : Int) :
    ((gridUnits b g).1 : ℚ) = 2 ^ (b.exponent - 2) / 10 ^ g * (gridUnits b g).2 := by
  have htwo := zpow_mul_toNat (x := 2) (by norm_num) (b.exponent - 2)
  have hten := zpow_mul_toNat (x := 10) (by norm_num) g
  have hpos : (10 : ℚ) ^ g ≠ 0 := zpow_ne_zero _ (by norm_num)
  rw [gridUnits]
  push_cast [Nat.pow_eq]
  rw [← htwo, ← hten]
  field_simp

/-- A point of the grid that is taken lies in the interval, and it is not zero. -/
theorem onGrid?_le (h : onGrid? b g = some d) :
    d.exponent = g ∧ 0 < d.digits ∧
      d.digits * (gridUnits b g).2 ≤ (4 * b.mantissa + 2) * (gridUnits b g).1 := by
  have hinside : ∀ k unit low high : Nat, ∀ closed : Bool,
      (k ≠ 0 && if closed then low ≤ k * unit && k * unit ≤ high
        else low < k * unit && k * unit < high) = true → 0 < k ∧ k * unit ≤ high := by
    intro k unit low high closed hk
    cases closed
    all_goals
      simp only [Bool.and_eq_true, decide_eq_true_eq, if_true, Bool.false_eq_true, if_false] at hk
      omega
  rw [onGrid?] at h
  generalize gridUnits b g = units at h ⊢
  obtain ⟨quarter, unit⟩ := units
  dsimp -zeta only at h
  extract_lets value low high closed inside below rest nearer other at h
  split at h
  · rename_i hnearer
    cases h
    exact ⟨rfl, hinside _ _ _ _ _ hnearer⟩
  · split at h
    · rename_i hother
      cases h
      exact ⟨rfl, hinside _ _ _ _ _ hother⟩
    · cases h

theorem coarsest_le (h : coarsest b steps g = some d) :
    0 < d.digits ∧ d.value ≤ (b.mantissa + 1 / 2) * 2 ^ b.exponent := by
  induction steps generalizing g with
  | zero => cases h
  | succ steps ih =>
    rw [coarsest] at h
    split at h
    · rename_i d' hgrid
      cases h
      obtain ⟨hexponent, hpos, hle⟩ := onGrid?_le hgrid
      refine ⟨hpos, ?_⟩
      have hunit : (0 : ℚ) < (gridUnits b g).2 := by
        rw [gridUnits]
        exact mod_cast Nat.mul_pos (Nat.pow_pos (by norm_num)) (Nat.pow_pos (by norm_num))
      have hle : (d.digits : ℚ) * (gridUnits b g).2 ≤ (4 * b.mantissa + 2) * (gridUnits b g).1 := mod_cast hle
      rw [gridUnits_value, ← mul_assoc] at hle
      have hle := le_of_mul_le_mul_right hle hunit
      have hten : (0 : ℚ) < 10 ^ g := by positivity
      rw [← mul_div_assoc, le_div_iff₀ hten] at hle
      rw [Scaled.value, hexponent]
      refine hle.trans_eq ?_
      rw [zpow_sub₀ (by norm_num)]
      norm_num
      ring
    · exact ih h

/-- The exact value, as it stands where no grid was found. -/
theorem value_exact (b : Binary) :
    Scaled.value ⟨b.mantissa * Nat.pow 2 b.exponent.toNat * Nat.pow 5 (-b.exponent).toNat, min b.exponent 0⟩ =
      b.value := by
  have htwo := zpow_mul_toNat (x := 2) (by norm_num) b.exponent
  have hmin : min b.exponent 0 = -((-b.exponent).toNat : Int) := by omega
  simp only [Scaled.value, Binary.value, hmin, zpow_neg, zpow_natCast]
  push_cast [Nat.pow_eq]
  have hten : (10 : ℚ) ^ (-b.exponent).toNat = 2 ^ (-b.exponent).toNat * 5 ^ (-b.exponent).toNat := by
    rw [← mul_pow]
    norm_num
  rw [← htwo, hten]
  field_simp

/-- The shortest decimal is no zero, and it is greater than the double by half a unit at most. -/
theorem value_shortest_le (hb : 0 < b.mantissa) :
    0 < (shortest b).digits ∧ (shortest b).value ≤ (b.mantissa + 1 / 2) * 2 ^ b.exponent := by
  rw [shortest]
  cases h : coarsest b 650 310 with
  | some d => exact coarsest_le h
  | none =>
    refine ⟨Nat.mul_pos (Nat.mul_pos hb (Nat.pow_pos (by norm_num))) (Nat.pow_pos (by norm_num)), ?_⟩
    rw [Option.getD_none, value_exact, Binary.value]
    have hunit : (0 : ℚ) < 2 ^ b.exponent := by positivity
    gcongr
    linarith

end LanguageServer.Decimal
