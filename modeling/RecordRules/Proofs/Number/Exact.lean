import Mathlib.Algebra.Order.Field.Power
import Mathlib.Algebra.Order.Field.Rat
import Mathlib.Tactic.NormNum
import RecordRules.Value.Quantity

/-!
Exact values of numbers.

A decimal fraction denotes a rational number, and comparing fractions is comparing the numbers that
they denote (`Scaled.compare_eq`). So a number counts in a comparison by its exact value alone,
however it is written: `Quantity.compare?_congr`.
-/

namespace RecordRules

namespace Number.Scaled

def toRat (s : Scaled) : ℚ := s.coefficient * (10 : ℚ) ^ s.exponent

/-- A fraction denotes the same number when it is spelled with a lower exponent. -/
theorem toRat_eq (s : Scaled) {e : Int} (below : e ≤ s.exponent) :
    s.toRat = s.coefficientAt e * (10 : ℚ) ^ e := by
  have shift : ((s.exponent - e).toNat : Int) = s.exponent - e := Int.toNat_of_nonneg (by omega)
  have power : (10 : ℚ) ^ s.exponent = (10 : ℚ) ^ (s.exponent - e).toNat * (10 : ℚ) ^ e := by
    rw [← zpow_natCast, ← zpow_add₀ (by norm_num), shift, sub_add_cancel]
  rw [toRat, power, coefficientAt, ← mul_assoc]
  push_cast [Nat.pow_eq]
  rfl

theorem toRat_ofInt (i : Int) : (ofInt i).toRat = i := by
  rw [toRat, ofInt, zpow_zero, mul_one]

/-- A binary fraction denotes its mantissa times its power of two. -/
theorem toRat_ofBinary (m e : Int) : (ofBinary m e).toRat = m * (2 : ℚ) ^ e := by
  cases e with
  | ofNat k => simp [ofBinary, toRat, Nat.pow_eq]
  | negSucc k =>
      have ten : (10 : ℚ) ^ (k + 1) = 2 ^ (k + 1) * 5 ^ (k + 1) := by
        rw [← mul_pow]
        norm_num
      have five : (5 : ℚ) ^ (k + 1) ≠ 0 := pow_ne_zero _ (by norm_num)
      rw [ofBinary, toRat, Nat.pow_eq, ← Int.negSucc_eq, zpow_negSucc, zpow_negSucc, ten, mul_inv,
        mul_comm (_)⁻¹]
      push_cast
      rw [mul_assoc, mul_inv_cancel_left₀ five]

section Compare

variable (s t : Scaled)

/-- The coefficients at a common exponent are in the order of the numbers. -/
theorem coefficientAt_lt_iff :
    s.coefficientAt (min s.exponent t.exponent) < t.coefficientAt (min s.exponent t.exponent) ↔
      s.toRat < t.toRat := by
  rw [s.toRat_eq (min_le_left _ _), t.toRat_eq (min_le_right _ _),
    mul_lt_mul_iff_left₀ (zpow_pos (by norm_num) _), Int.cast_lt]

theorem compare_eq_lt : s.compare t = .lt ↔ s.toRat < t.toRat := by
  rw [← coefficientAt_lt_iff]
  exact Int.compare_eq_lt

theorem compare_eq_gt : s.compare t = .gt ↔ t.toRat < s.toRat := by
  rw [← coefficientAt_lt_iff, min_comm]
  exact Int.compare_eq_gt

theorem compare_eq_eq : s.compare t = .eq ↔ s.toRat = t.toRat := by
  constructor
  · intro same
    have notLess : ¬ s.toRat < t.toRat := by rw [← compare_eq_lt, same]; decide
    have notGreater : ¬ t.toRat < s.toRat := by rw [← compare_eq_gt, same]; decide
    exact le_antisymm (not_lt.mp notGreater) (not_lt.mp notLess)
  · intro same
    cases order : s.compare t with
    | eq => rfl
    | lt => exact absurd same ((compare_eq_lt s t).mp order).ne
    | gt => exact absurd same ((compare_eq_gt s t).mp order).ne'

/-- Fractions are in the order of the numbers that they denote. -/
theorem compare_eq : s.compare t = Ord.compare s.toRat t.toRat := by
  rcases lt_trichotomy s.toRat t.toRat with less | same | greater
  · rw [compare_lt_iff_lt.mpr less]
    exact (compare_eq_lt s t).mpr less
  · rw [compare_eq_iff_eq.mpr same]
    exact (compare_eq_eq s t).mpr same
  · rw [compare_gt_iff_gt.mpr greater]
    exact (compare_eq_gt s t).mpr greater

end Compare

end Number.Scaled

/-- The exact value of a number, which may be infinite. -/
inductive Exact where
  | finite (x : ℚ)
  | infinite (negative : Bool)

namespace Quantity

open Number

def toExact? : Quantity → Option Exact
  | .finite s => some (.finite s.toRat)
  | .infinite negative => some (.infinite negative)
  | .nan _ => none

/-- Quantities compare as equal when they have one exact value. -/
theorem compare?_eq_some_eq {p q : Quantity} :
    p.compare? q = some .eq ↔ ∃ x, p.toExact? = some x ∧ q.toExact? = some x := by
  cases p with
  | nan _ => simp [compare?, toExact?]
  | finite s =>
      cases q with
      | nan _ => simp [compare?, toExact?]
      | finite t =>
          have same : some (s.compare t) = some .eq ↔ s.toRat = t.toRat := by
            rw [Option.some.injEq, Scaled.compare_eq_eq]
          simpa [compare?, toExact?, eq_comm] using same
      | infinite negative => cases negative <;> simp [compare?, toExact?]
  | infinite negative =>
      cases q with
      | nan _ => simp [compare?, toExact?]
      | finite t => cases negative <;> simp [compare?, toExact?]
      | infinite negative' => cases negative <;> cases negative' <;> simp [compare?, toExact?]

end Quantity

namespace Number

theorem Scaled.toRat_eq_zero {s : Scaled} : s.toRat = 0 ↔ s.coefficient = 0 := by
  have power : (10 : ℚ) ^ s.exponent ≠ 0 := zpow_ne_zero _ (by norm_num)
  rw [toRat, mul_eq_zero, or_iff_left power, Int.cast_eq_zero]

theorem Scaled.coefficient_ofBinary (m e : Int) :
    (Scaled.ofBinary m e).coefficient = 0 ↔ m = 0 := by
  cases e with
  | ofNat k => simp [Scaled.ofBinary, Nat.pow_eq]
  | negSucc k => simp [Scaled.ofBinary, Nat.pow_eq]

/-- A binary number is zero when its exact value is. -/
theorem Binary.isZero_iff {x : Binary} :
    x.isZero = true ↔ (Quantity.ofBinary x).toExact? = some (.finite 0) := by
  cases x with
  | finite negative m e =>
      simp only [Binary.isZero, Quantity.ofBinary, Quantity.toExact?, Option.some.injEq,
        Exact.finite.injEq, Scaled.toRat_eq_zero, Scaled.coefficient_ofBinary, beq_iff_eq]
      cases negative <;> simp
  | infinite negative => simp [Binary.isZero, Quantity.ofBinary, Quantity.toExact?]
  | nan => simp [Binary.isZero, Quantity.ofBinary, Quantity.toExact?]

end Number

end RecordRules
