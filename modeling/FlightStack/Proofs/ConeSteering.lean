import FlightStack.Library.Radial
import FlightStack.Proofs.BodyFrame
import FlightStack.Proofs.TiltLanding

/-! Where a tilt landing steers. The 45 degree line is a cone: the distance from the
landing point is as large as the height. Stage 1 flies to it along a ray, stage 2 closes
what is left of the gap on the way down. -/

namespace FlightStack.Proofs
open BaseController TaskController
variable {config : Config ℝ} {position : Position ℝ} {currentYaw : ℝ}

theorem horizontalDistance_eq (position : Position ℝ) : horizontalDistance position = ‖footprint position‖ := by
  rw [norm_footprint, horizontalDistance, sub_zero, sub_zero]
  rfl

/-- The speed at which stage 2 closes the gap. -/
noncomputable def closingSpeed (position : Position ℝ) : ℝ := min (2 * |‖footprint position‖ - position.z|) 1

theorem closingSpeed_nonneg (position : Position ℝ) : 0 ≤ closingSpeed position :=
  le_min (mul_nonneg zero_le_two (abs_nonneg _)) zero_le_one

/-- A setpoint at the start of the line. -/
structure StartsLine (position : Position ℝ) (x y z : ℝ) : Prop where
  altitude : z = position.z
  distance : ‖(⟨x, y⟩ : ℂ)‖ = position.z
  ray : 0.1 < ‖footprint position‖ → (⟨x, y⟩ : ℂ) = (position.z / ‖footprint position‖) • footprint position

/-- A horizontal velocity that follows the line. -/
structure FollowsLine (position : Position ℝ) (velocity : ℂ) : Prop where
  overhead : ‖footprint position‖ ≤ 0.05 → velocity = 0
  speed : 0.05 < ‖footprint position‖ → ‖velocity‖ = closingSpeed position
  inward : 0.05 < ‖footprint position‖ → position.z < ‖footprint position‖ →
    velocity = (-closingSpeed position / ‖footprint position‖) • footprint position
  outward : 0.05 < ‖footprint position‖ → ‖footprint position‖ < position.z →
    velocity = (closingSpeed position / ‖footprint position‖) • footprint position
  closes : 0.05 < ‖footprint position‖ → ∀ time, 0 ≤ time → time ≤ 1 / 2 →
    |‖footprint position + time • velocity‖ - position.z| =
      |‖footprint position‖ - position.z| - time * closingSpeed position
  limited : ‖velocity‖ ≤ 1

theorem smul_footprint (factor : ℝ) (position : Position ℝ) :
    factor • footprint position = ⟨factor * position.x, factor * position.y⟩ :=
  Complex.ext (Complex.smul_re _ _) (Complex.smul_im _ _)

theorem startsLine (high : 0.08 ≤ position.z) : StartsLine position (0 - (moveDirection position).1 * position.z)
    (0 - (moveDirection position).2 * position.z) position.z := by
  have height : 0 ≤ position.z := le_trans (by norm_num) high
  rcases lt_or_ge 0.1 ‖footprint position‖ with far | near
  · have off : footprint position ≠ 0 := norm_pos_iff.mp (lt_trans (by norm_num) far)
    have ray : (⟨0 - (moveDirection position).1 * position.z, 0 - (moveDirection position).2 * position.z⟩ : ℂ) =
        radial position.z (footprint position) := by
      rw [moveDirection, if_pos (horizontalDistance_eq position ▸ far), horizontalDistance_eq, radial, smul_footprint]
      apply Complex.ext
      · ring
      · ring
    refine ⟨rfl, ?_, fun _ => ray⟩
    rw [ray, norm_radial _ off, abs_of_nonneg height]
  · refine ⟨rfl, ?_, fun far => absurd near (not_le.mpr far)⟩
    rw [moveDirection, if_neg (horizontalDistance_eq position ▸ not_lt.mpr near), Complex.norm_eq_sqrt_sq_add_sq]
    simp [Real.sqrt_sq height]

theorem lineVelocity_eq (position : Position ℝ) : (⟨(lineVelocity position).1, (lineVelocity position).2⟩ : ℂ) =
    closing position.z (closingSpeed position) (footprint position) := by
  rw [closing, radial, smul_footprint, closingSpeed]
  simp only [lineVelocity, horizontalDistance_eq]
  split
  · apply Complex.ext
    · ring
    · ring
  · apply Complex.ext
    · ring
    · ring

theorem bodyVelocity_eq (far : 0.05 < ‖footprint position‖) (currentYaw : ℝ) :
    toWorld currentYaw ⟨(bodyVelocity position currentYaw).1, (bodyVelocity position currentYaw).2⟩ =
      closing position.z (closingSpeed position) (footprint position) := by
  have turned : (⟨(bodyVelocity position currentYaw).1, (bodyVelocity position currentYaw).2⟩ : ℂ) =
      (toWorld currentYaw).symm ⟨(lineVelocity position).1, (lineVelocity position).2⟩ := by
    rw [toBody_mk, bodyVelocity, if_pos (horizontalDistance_eq position ▸ far)]
    simp only [sin, cos, Real.sin_neg, Real.cos_neg]
    apply Complex.ext
    · ring
    · ring
  rw [turned, LinearIsometryEquiv.apply_symm_apply, lineVelocity_eq]

theorem followsLine (high : 0.08 ≤ position.z) (currentYaw : ℝ) : FollowsLine position
    (toWorld currentYaw ⟨(bodyVelocity position currentYaw).1, (bodyVelocity position currentYaw).2⟩) := by
  have slow := closingSpeed_nonneg position
  rcases lt_or_ge 0.05 ‖footprint position‖ with far | near
  · have off : footprint position ≠ 0 := norm_pos_iff.mp (lt_trans (by norm_num) far)
    rw [bodyVelocity_eq far]
    refine ⟨fun near => absurd far (not_lt.mpr near), fun _ => norm_closing _ slow off, ?_, ?_, ?_, ?_⟩
    · intro _ outside
      rw [closing, if_pos (sub_pos.mpr outside)]
      rfl
    · intro _ inside
      rw [closing, if_neg (not_lt.mpr (sub_nonpos.mpr inside.le))]
      rfl
    · intro _ time begun early
      apply closing_closes (le_trans (by norm_num) high) (mul_nonneg begun slow) _ off
      calc time * closingSpeed position ≤ 1 / 2 * (2 * |‖footprint position‖ - position.z|) :=
            mul_le_mul early (min_le_left _ _) slow (by norm_num)
        _ = |‖footprint position‖ - position.z| := by ring
    · rw [norm_closing _ slow off]
      exact min_le_right _ _
  · have still : toWorld currentYaw ⟨(bodyVelocity position currentYaw).1, (bodyVelocity position currentYaw).2⟩ = 0 := by
      rw [bodyVelocity, if_neg (horizontalDistance_eq position ▸ not_lt.mpr near)]
      exact map_zero _
    rw [still]
    refine ⟨fun _ => rfl, ?_, ?_, ?_, ?_, norm_zero.trans_le zero_le_one⟩
    all_goals
      intro far
      exact absurd near (not_le.mpr far)

/-- Whatever a call of `tilt_land` publishes starts the line or follows it. -/
theorem tilt_land_steers (config : Config ℝ) (position : Position ℝ) (currentYaw : ℝ) (tilt : TiltStage)
    (high : 0.08 ≤ position.z) :
    (∀ x y z yaw, .positionSetpoint x y z yaw ∈ (tiltLand config position currentYaw tilt).2.2 →
      StartsLine position x y z) ∧
    ∀ vx vy vz rate, .velocitySetpoint vx vy vz rate ∈ (tiltLand config position currentYaw tilt).2.2 →
      FollowsLine position (toWorld currentYaw ⟨vx, vy⟩) := by
  have step := tilted config position currentYaw tilt
  generalize tiltLand config position currentYaw tilt = result at step
  cases step with
  | landed low => exact absurd low (not_lt.mpr high)
  | approach =>
    constructor
    · intro x y z yaw sent
      cases List.mem_singleton.mp sent
      exact startsLine high
    · intro vx vy vz rate sent
      cases List.mem_singleton.mp sent
  | descend =>
    constructor
    · intro x y z yaw sent
      cases List.mem_singleton.mp sent
    · intro vx vy vz rate sent
      cases List.mem_singleton.mp sent
      exact followsLine high currentYaw

/-- Four centimetres outside the line -/
noncomputable def beside : Position ℝ := ⟨1, 0, 0.96⟩

theorem beside_near : NearLine beside := by
  have far : ‖footprint beside‖ = 1 := by
    rw [norm_footprint]
    simp [beside]
  rw [NearLine, horizontalDistance_eq, far]
  norm_num [beside, abs_of_nonneg]

theorem tilt_land_steers_out : ∃ tilt,
    (∃ x y z yaw, .positionSetpoint x y z yaw ∈ (tiltLand (constructDefault 0 fun _ => (0, 0, 0)) beside 0 {}).2.2 ∧
      (tiltLand (constructDefault 0 fun _ => (0, 0, 0)) beside 0 {}).2.1 = tilt ∧ StartsLine beside x y z) ∧
    ∃ vx vy vz rate, .velocitySetpoint vx vy vz rate ∈
      (tiltLand (constructDefault 0 fun _ => (0, 0, 0)) beside 0 tilt).2.2 ∧ FollowsLine beside (toWorld 0 ⟨vx, vy⟩) := by
  have high : 0.08 ≤ beside.z := by norm_num [beside]
  refine ⟨{ stage1Started := true }, ?_, ?_⟩
  · have steers := (tilt_land_steers (constructDefault 0 fun _ => (0, 0, 0)) beside 0 {} high).1
    have step := tilted (constructDefault 0 fun _ => (0, 0, 0)) beside 0 {}
    generalize tiltLand (constructDefault 0 fun _ => (0, 0, 0)) beside 0 {} = result at step steers
    cases step with
    | landed low => exact absurd low (not_lt.mpr high)
    | approach => exact ⟨_, _, _, _, List.mem_singleton_self _, rfl, steers _ _ _ _ (List.mem_singleton_self _)⟩
    | descend high ready => simp at ready
  · have steers := (tilt_land_steers (constructDefault 0 fun _ => (0, 0, 0)) beside 0 { stage1Started := true } high).2
    have step := tilted (constructDefault 0 fun _ => (0, 0, 0)) beside 0 { stage1Started := true }
    generalize tiltLand (constructDefault 0 fun _ => (0, 0, 0)) beside 0 { stage1Started := true } = result at step steers
    cases step with
    | landed low => exact absurd low (not_lt.mpr high)
    | approach high unfinished waiting => simp [beside_near] at waiting
    | descend => exact ⟨_, _, _, _, List.mem_singleton_self _, steers _ _ _ _ (List.mem_singleton_self _)⟩

end FlightStack.Proofs
