import FlightStack.Rclcpp
import Mathlib.Analysis.CStarAlgebra.Classes
import Mathlib.Analysis.Complex.Isometry
import Mathlib.Analysis.InnerProductSpace.Basic
import Mathlib.Tactic.LinearCombination

/-! The horizontal plane as the complex plane. A heading turns the axes of the body
into those of the world. -/

namespace FlightStack.Proofs

/-- What a horizontal vector of the body is in the world. -/
noncomputable def toWorld (yaw : ℝ) : ℂ ≃ₗᵢ[ℝ] ℂ := rotation (Circle.exp yaw)

theorem toWorld_mk (yaw x y : ℝ) : toWorld yaw ⟨x, y⟩ =
    ⟨Real.cos yaw * x - Real.sin yaw * y, Real.sin yaw * x + Real.cos yaw * y⟩ := by
  have exp : (Circle.exp yaw : ℂ) = ⟨Real.cos yaw, Real.sin yaw⟩ := by
    apply Complex.ext
    · simp [Circle.coe_exp, Complex.exp_ofReal_mul_I_re]
    · simp [Circle.coe_exp, Complex.exp_ofReal_mul_I_im]
  rw [toWorld, rotation_apply, exp]
  apply Complex.ext
  · rw [Complex.mul_re]
  · rw [Complex.mul_im]
    exact add_comm _ _

theorem toBody_mk (yaw x y : ℝ) : (toWorld yaw).symm ⟨x, y⟩ =
    ⟨Real.cos yaw * x + Real.sin yaw * y, -Real.sin yaw * x + Real.cos yaw * y⟩ := by
  rw [LinearIsometryEquiv.symm_apply_eq, toWorld_mk]
  have unit := Real.cos_sq_add_sin_sq yaw
  apply Complex.ext
  · linear_combination (-x) * unit
  · linear_combination (-y) * unit

/-- Where the vehicle is, seen from above. -/
def footprint (position : Position ℝ) : ℂ := ⟨position.x, position.y⟩

theorem norm_footprint (position : Position ℝ) :
    ‖footprint position‖ = Real.sqrt (position.x ^ 2 + position.y ^ 2) :=
  Complex.norm_eq_sqrt_sq_add_sq _

end FlightStack.Proofs
