import Mathlib.Analysis.Convex.Between
import Mathlib.Tactic.FieldSimp
import Mathlib.Tactic.LinearCombination

/-! A line that is straight at each of its points is straight. -/

namespace FlightStack

universe u v w
variable {R : Type u} {V : Type v} {P : Type w} [Field R] [LinearOrder R] [IsStrictOrderedRing R] [AddCommGroup V]
  [Module R V] [AddTorsor V P]

theorem straight_last (point : Nat → P) {count : Nat}
    (straight : ∀ index ≤ count, Sbtw R (point index) (point (index + 1)) (point (index + 2))) :
    Sbtw R (point 0) (point (count + 1)) (point (count + 2)) := by
  induction count with
  | zero => exact straight 0 (Nat.le_refl 0)
  | succ count ih =>
    have earlier := ih fun index within => straight index (Nat.le_succ_of_le within)
    exact earlier.trans_expand_right (straight (count + 1) (Nat.le_refl _))

theorem straight_chain (point : Nat → P) (count : Nat)
    (straight : ∀ index, index + 2 ≤ count → Sbtw R (point index) (point (index + 1)) (point (index + 2))) :
    ∀ index ≤ count, Wbtw R (point 0) (point index) (point count) := by
  induction count with
  | zero =>
    intro index within
    rw [Nat.le_zero.mp within]
    exact wbtw_self_left R _ _
  | succ count ih =>
    intro index within
    rcases Nat.lt_or_eq_of_le within with below | rfl
    · have earlier := ih (fun index inner => straight index (Nat.le_succ_of_le inner)) index (Nat.le_of_lt_succ below)
      have onward : Wbtw R (point 0) (point count) (point (count + 1)) := by
        cases count with
        | zero => exact wbtw_self_left R _ _
        | succ count => exact (straight_last point fun index inner => straight index (by omega)).wbtw
      exact onward.trans_left earlier
    · exact wbtw_self_right R _ _

/-- In the plane, two parallel steps the same way make a straight line. -/
theorem sbtw_of_parallel {first second third : R × R}
    (parallel : (second.1 - first.1) * (third.2 - second.2) - (second.2 - first.2) * (third.1 - second.1) = 0)
    (onward : 0 < (second.1 - first.1) * (third.1 - second.1) + (second.2 - first.2) * (third.2 - second.2)) :
    Sbtw R first second third := by
  have left : second ≠ first := by
    intro same
    subst same
    simp at onward
  have right : second ≠ third := by
    intro same
    subst same
    simp at onward
  have step : 0 ≤ (second.1 - first.1) ^ 2 + (second.2 - first.2) ^ 2 := add_nonneg (sq_nonneg _) (sq_nonneg _)
  have whole := add_pos_of_nonneg_of_pos step onward
  refine ⟨⟨((second.1 - first.1) ^ 2 + (second.2 - first.2) ^ 2) / _, ⟨div_nonneg step whole.le, ?_⟩, ?_⟩, left, right⟩
  · exact div_le_one_of_le₀ (le_add_of_nonneg_right onward.le) whole.le
  · apply Prod.ext
    · simp only [AffineMap.lineMap_apply, vsub_eq_sub, vadd_eq_add, Prod.fst_add, Prod.smul_fst, Prod.fst_sub, smul_eq_mul]
      rw [← eq_sub_iff_add_eq, div_mul_eq_mul_div, div_eq_iff whole.ne']
      linear_combination (-(second.2 - first.2)) * parallel
    · simp only [AffineMap.lineMap_apply, vsub_eq_sub, vadd_eq_add, Prod.snd_add, Prod.smul_snd, Prod.snd_sub, smul_eq_mul]
      rw [← eq_sub_iff_add_eq, div_mul_eq_mul_div, div_eq_iff whole.ne']
      linear_combination (second.1 - first.1) * parallel

end FlightStack
