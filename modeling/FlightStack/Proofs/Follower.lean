import FlightStack.Library.NearestPoint
import FlightStack.Proofs.BodyFrame
import FlightStack.Proofs.Clocks
import Mathlib.Analysis.InnerProductSpace.PiL2

/-! The values inside the segment follower, under the names they have there, and what
they are in the world. -/

namespace FlightStack.Proofs
open BaseController

section Values
variable {α : Type} [Arithmetic α] (start goal position : Position α)

def segmentLength : α :=
  sqrt ((goal.x - start.x) * (goal.x - start.x) + (goal.y - start.y) * (goal.y - start.y) +
    (goal.z - start.z) * (goal.z - start.z))

def direction : Position α where
  x := (goal.x - start.x) / segmentLength start goal
  y := (goal.y - start.y) / segmentLength start goal
  z := (goal.z - start.z) / segmentLength start goal

def alongTrackDistance : α :=
  clamp ((position.x - start.x) * (direction start goal).x + (position.y - start.y) * (direction start goal).y +
    (position.z - start.z) * (direction start goal).z) 0 (segmentLength start goal)

def closest : Position α where
  x := start.x + alongTrackDistance start goal position * (direction start goal).x
  y := start.y + alongTrackDistance start goal position * (direction start goal).y
  z := start.z + alongTrackDistance start goal position * (direction start goal).z

def crossTrack : Position α where
  x := position.x - (closest start goal position).x
  y := position.y - (closest start goal position).y
  z := position.z - (closest start goal position).z

def alongTrackError : α := segmentLength start goal - alongTrackDistance start goal position

/-- `dt` -/
def timeStep (elapsed : α) : α := if elapsed < 1e-3 then 1e-3 else elapsed

/-- World to body -/
def bodyError (yaw x y : α) : α × α := (cos yaw * x + sin yaw * y, -sin yaw * x + cos yaw * y)

/-- What the follower leaves and publishes on a segment that has a direction. -/
def steer (config : Config α) (now : Time) (currentYaw targetYaw : α) (cross : CrossTrack α) (elapsed : α) :
    CrossTrack α × Output α :=
  let crossErr := bodyError currentYaw (crossTrack start goal position).x (crossTrack start goal position).y
  let alongErr := bodyError currentYaw ((direction start goal).x * alongTrackError start goal position)
    ((direction start goal).y * alongTrackError start goal position)
  let dErrX := (crossErr.1 - cross.lastCrossErrX) / timeStep elapsed
  let dErrY := (crossErr.2 - cross.lastCrossErrY) / timeStep elapsed
  (⟨crossErr.1, crossErr.2, now⟩,
    publishVelocityBody config (-(2 * crossErr.1 + 0.8 * dErrX) + 1 * alongErr.1)
      (-(2 * crossErr.2 + 0.8 * dErrY) + 1 * alongErr.2) (-1 * (crossTrack start goal position).z)
      (1 * wrapUp (wrapDown (targetYaw - currentYaw))))

variable {start goal} (config : Config α) (now : Time) (currentYaw targetYaw : α) (cross : CrossTrack α)

theorem follow_short (short : segmentLength start goal < 1e-6) :
    publishPositionSetpointTrajectory config now position currentYaw start goal targetYaw cross =
      .ok (cross, publishPositionSetpoint goal.x goal.y goal.z targetYaw) :=
  if_pos short

theorem follow_long (long : 1e-6 ≤ segmentLength start goal) :
    publishPositionSetpointTrajectory config now position currentYaw start goal targetYaw cross =
      (now.sub cross.lastCrossTime).map fun span =>
        steer start goal position config now currentYaw targetYaw cross (seconds span) := by
  refine (if_neg (not_lt.mpr long)).trans ?_
  cases now.sub cross.lastCrossTime with
  | error fault => rfl
  | ok span => rfl

theorem follow_ran {after : CrossTrack α} {published : Output α} (long : 1e-6 ≤ segmentLength start goal)
    (ran : publishPositionSetpointTrajectory config now position currentYaw start goal targetYaw cross =
      .ok (after, published)) :
    ∃ elapsed, steer start goal position config now currentYaw targetYaw cross elapsed = (after, published) := by
  rw [follow_long position config now currentYaw targetYaw cross long] at ran
  cases elapsed : now.sub cross.lastCrossTime with
  | error fault =>
    rw [elapsed] at ran
    cases ran
  | ok span =>
    rw [elapsed] at ran
    exact ⟨seconds span, Except.ok.inj ran⟩

theorem timeStep_pos (elapsed : α) : 0 < timeStep elapsed := by
  have least : (0 : α) < 1e-3 := by norm_num
  rw [timeStep]
  split
  · exact least
  next enough => exact least.trans_le (not_lt.mp enough)

theorem clamp_eq {low high : α} (order : low ≤ high) (value : α) : clamp value low high = max low (min value high) := by
  rw [clamp]
  split
  next below => rw [min_eq_left (below.le.trans order), max_eq_left below.le]
  next inside =>
    have inside := not_lt.mp inside
    split
    next beyond => rw [min_eq_right beyond.le, max_eq_right order]
    next within => rw [min_eq_left (not_lt.mp within), max_eq_right inside]

end Values

/-! In space -/

section Space
open scoped RealInnerProductSpace
variable {start goal : Position ℝ} (position : Position ℝ)

noncomputable def vector (position : Position ℝ) : EuclideanSpace ℝ (Fin 3) := !₂[position.x, position.y, position.z]

theorem vector_injective : Function.Injective vector := by
  intro first second same
  have coordinate (index : Fin 3) := congrArg (· index) same
  obtain ⟨x, y, z⟩ := first
  obtain ⟨x', y', z'⟩ := second
  simpa [vector, Fin.forall_fin_succ] using coordinate

theorem inner_vector (first second : Position ℝ) :
    ⟪vector first, vector second⟫ = first.x * second.x + first.y * second.y + first.z * second.z := by
  simp [vector, PiLp.inner_apply, Fin.sum_univ_three, mul_comm]

theorem norm_vector (position : Position ℝ) :
    ‖vector position‖ = Real.sqrt (position.x * position.x + position.y * position.y + position.z * position.z) := by
  rw [norm_eq_sqrt_real_inner, inner_vector]

theorem vector_sub (first second : Position ℝ) :
    vector first - vector second = vector ⟨first.x - second.x, first.y - second.y, first.z - second.z⟩ := by
  ext index
  fin_cases index <;> simp [vector]

theorem vector_add_smul (first second : Position ℝ) (factor : ℝ) : vector first + factor • vector second =
    vector ⟨first.x + factor * second.x, first.y + factor * second.y, first.z + factor * second.z⟩ := by
  ext index
  fin_cases index <;> simp [vector]

theorem segmentLength_eq (start goal : Position ℝ) : segmentLength start goal = ‖vector goal - vector start‖ := by
  rw [vector_sub, norm_vector]
  rfl

/-- The segment, once it is long enough to have a direction. -/
noncomputable def straightPath (start goal : Position ℝ) (long : 1e-6 ≤ segmentLength start goal) :
    StraightPath (EuclideanSpace ℝ (Fin 3)) where
  start := vector start
  direction := vector (direction start goal)
  length := segmentLength start goal
  unit := by
    have positive : 0 < segmentLength start goal := lt_of_lt_of_le (by norm_num) long
    have scaled : vector (direction start goal) = (segmentLength start goal)⁻¹ • (vector goal - vector start) := by
      ext index
      fin_cases index <;> simp [vector, direction, div_eq_inv_mul]
    rw [scaled, norm_smul, ← segmentLength_eq, Real.norm_eq_abs, abs_of_pos (inv_pos.mpr positive),
      inv_mul_cancel₀ positive.ne']
  positive := lt_of_lt_of_le (by norm_num) long

variable (long : 1e-6 ≤ segmentLength start goal)

theorem straightPath_goal : (straightPath start goal long).goal = vector goal := by
  have positive : segmentLength start goal ≠ 0 := (straightPath start goal long).positive.ne'
  change vector start + segmentLength start goal • vector (direction start goal) = vector goal
  rw [vector_add_smul]
  simp only [direction, mul_div_cancel₀ _ positive, add_sub_cancel]

theorem straightPath_progress :
    (straightPath start goal long).progress (vector position) = alongTrackDistance start goal position := by
  have order : 0 ≤ segmentLength start goal := (straightPath start goal long).positive.le
  rw [alongTrackDistance, clamp_eq order]
  simp only [StraightPath.progress, straightPath, vector_sub, inner_vector]

theorem straightPath_nearest :
    (straightPath start goal long).nearest (vector position) = vector (closest start goal position) := by
  rw [StraightPath.nearest, straightPath_progress]
  exact vector_add_smul _ _ _

theorem straightPath_offset :
    (straightPath start goal long).offset (vector position) = vector (crossTrack start goal position) := by
  rw [StraightPath.offset, straightPath_nearest, vector_sub]
  rfl

end Space

/-! Seen from above -/

section Plane
variable (start goal position : Position ℝ)

def cachedError (cross : CrossTrack ℝ) : ℂ := ⟨cross.lastCrossErrX, cross.lastCrossErrY⟩

/-- The horizontal velocity in the world. It depends on the heading only through the
cached error, as that is in the world. -/
noncomputable def worldVelocity (elapsed : ℝ) (cached : ℂ) : ℂ :=
  alongTrackError start goal position • footprint (direction start goal) -
    ((2 : ℝ) • footprint (crossTrack start goal position) +
      (0.8 / timeStep elapsed) • (footprint (crossTrack start goal position) - cached))

theorem bodyError_eq (yaw x y : ℝ) : (⟨(bodyError yaw x y).1, (bodyError yaw x y).2⟩ : ℂ) = (toWorld yaw).symm ⟨x, y⟩ :=
  (toBody_mk yaw x y).symm

theorem cachedError_steer (config : Config ℝ) (now : Time) (yaw targetYaw : ℝ) (cross : CrossTrack ℝ) (elapsed : ℝ) :
    toWorld yaw (cachedError (steer start goal position config now yaw targetYaw cross elapsed).1) =
      footprint (crossTrack start goal position) := by
  rw [← LinearIsometryEquiv.eq_symm_apply]
  exact bodyError_eq _ _ _

theorem steer_world (config : Config ℝ) (now : Time) (yaw targetYaw : ℝ) (cross : CrossTrack ℝ) (elapsed : ℝ) :
    ∃ vx vy rate, (steer start goal position config now yaw targetYaw cross elapsed).2 =
        .velocitySetpoint vx vy (-1 * (crossTrack start goal position).z) rate ∧
      toWorld yaw ⟨vx, vy⟩ = worldVelocity start goal position elapsed (toWorld yaw (cachedError cross)) := by
  refine ⟨_, _, _, rfl, ?_⟩
  rw [← LinearIsometryEquiv.eq_symm_apply]
  simp only [worldVelocity, map_sub, map_add, map_smul, LinearIsometryEquiv.symm_apply_apply, footprint, ← bodyError_eq,
    cachedError]
  apply Complex.ext
  · simp only [bodyError, Complex.sub_re, Complex.add_re, Complex.smul_re, smul_eq_mul]
    ring
  · simp only [bodyError, Complex.sub_im, Complex.add_im, Complex.smul_im, smul_eq_mul]
    ring

end Plane

end FlightStack.Proofs
