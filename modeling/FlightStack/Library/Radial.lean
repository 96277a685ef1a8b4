import Mathlib.Analysis.Normed.Module.Basic

/-! Motion towards the origin or away from it, and the sphere such a motion aims at. -/

namespace FlightStack

universe u
variable {V : Type u} [NormedAddCommGroup V] [NormedSpace ℝ V]

/-- A velocity along the ray through a point; it leads outward where it is positive. -/
noncomputable def radial (speed : ℝ) (point : V) : V := (speed / ‖point‖) • point

variable {point : V}

theorem norm_radial (speed : ℝ) (off : point ≠ 0) : ‖radial speed point‖ = |speed| := by
  rw [radial, norm_smul, Real.norm_eq_abs, abs_div, abs_norm, div_mul_cancel₀ _ (norm_ne_zero_iff.mpr off)]

theorem norm_add_radial (speed : ℝ) (off : point ≠ 0) : ‖point + radial speed point‖ = |‖point‖ + speed| := by
  have scaled : point + radial speed point = radial (‖point‖ + speed) point := by
    rw [radial, radial, add_div, div_self (norm_ne_zero_iff.mpr off), add_smul, one_smul]
  rw [scaled, norm_radial _ off]

theorem smul_radial (time speed : ℝ) : time • radial speed point = radial (time * speed) point := by
  rw [radial, radial, smul_smul, mul_div_assoc]

/-- The radial velocity of the given speed that leads to the sphere of the given radius. -/
noncomputable def closing (radius speed : ℝ) (point : V) : V :=
  radial (if 0 < ‖point‖ - radius then -speed else speed) point

theorem norm_closing (radius : ℝ) {speed : ℝ} (forward : 0 ≤ speed) (off : point ≠ 0) :
    ‖closing radius speed point‖ = speed := by
  rw [closing, norm_radial _ off]
  split
  · rw [abs_neg, abs_of_nonneg forward]
  · exact abs_of_nonneg forward

/-- Until it is there, such a motion takes away from the gap what it travels. -/
theorem closing_closes {radius speed time : ℝ} (some : 0 ≤ radius) (travelled : 0 ≤ time * speed)
    (within : time * speed ≤ |‖point‖ - radius|) (off : point ≠ 0) :
    |‖point + time • closing radius speed point‖ - radius| = |‖point‖ - radius| - time * speed := by
  rw [closing, smul_radial, norm_add_radial _ off]
  split
  next outside =>
    rw [abs_of_pos outside] at within ⊢
    have onward : 0 ≤ ‖point‖ + -(time * speed) := by linarith
    rw [mul_neg, abs_of_nonneg onward, abs_of_nonneg (by linarith)]
    ring
  next inside =>
    have inside := not_lt.mp inside
    rw [abs_of_nonpos inside] at within ⊢
    rw [abs_of_nonneg (add_nonneg (norm_nonneg _) travelled), abs_of_nonpos (by linarith)]
    ring

end FlightStack
