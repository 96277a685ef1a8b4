import FlightStack.Proofs.Follower

/-! The point the segment follower holds on to is the nearest of its segment, and what it
divides by is never zero. -/

namespace FlightStack.Proofs
open BaseController
open scoped RealInnerProductSpace

variable {start goal : Position ℝ}

/-- The values inside the follower, as geometry. -/
structure Tracks (start goal position : Position ℝ) : Prop where
  member : vector (closest start goal position) ∈ segment ℝ (vector start) (vector goal)
  nearest : ∀ other ∈ segment ℝ (vector start) (vector goal),
    dist (vector position) (vector (closest start goal position)) ≤ dist (vector position) other
  whole : alongTrackDistance start goal position + alongTrackError start goal position = segmentLength start goal
  distance : 0 ≤ alongTrackDistance start goal position
  error : 0 ≤ alongTrackError start goal position
  orthogonal : 0 < alongTrackDistance start goal position →
    alongTrackDistance start goal position < segmentLength start goal →
    ⟪vector (crossTrack start goal position), vector goal - vector start⟫ = 0

theorem tracks (long : 1e-6 ≤ segmentLength start goal) (position : Position ℝ) : Tracks start goal position := by
  let path := straightPath start goal long
  have ends : path.goal = vector goal := straightPath_goal long
  have progress := straightPath_progress position long
  constructor
  · rw [← straightPath_nearest position long, ← ends]
    exact path.nearest_mem _
  · intro other member
    rw [← straightPath_nearest position long]
    rw [← ends] at member
    exact path.nearest_le _ member
  · exact add_sub_cancel _ _
  · rw [← progress]
    exact path.progress_nonneg _
  · apply sub_nonneg.mpr
    rw [← progress]
    exact path.progress_le _
  · intro after before
    have along : vector goal - vector start = segmentLength start goal • vector (direction start goal) := by
      rw [← ends]
      exact add_sub_cancel_left _ _
    rw [← progress] at after before
    rw [along, real_inner_smul_right, ← straightPath_offset position long]
    exact mul_eq_zero_of_right _ (path.offset_orthogonal _ after before)

/-- On a segment with a direction the follower steers by these values, for every clock
reading, and neither of its divisors is zero. -/
theorem tracked_point (config : Config ℝ) (now : Time) (currentYaw targetYaw : ℝ) (cross : CrossTrack ℝ)
    (position : Position ℝ) (long : 1e-6 ≤ segmentLength start goal) :
    publishPositionSetpointTrajectory config now position currentYaw start goal targetYaw cross =
      (now.sub cross.lastCrossTime).map (fun span =>
        steer start goal position config now currentYaw targetYaw cross (seconds span)) ∧
    Tracks start goal position ∧ segmentLength start goal ≠ 0 ∧ ∀ elapsed : ℝ, timeStep elapsed ≠ 0 :=
  ⟨follow_long position config now currentYaw targetYaw cross long, tracks long position,
    (lt_of_lt_of_le (by norm_num) long).ne', fun elapsed => (timeStep_pos elapsed).ne'⟩

theorem tracked_point_beside : Tracks (⟨0, 0, 1⟩ : Position ℝ) ⟨1, 0, 1⟩ ⟨3, 4, 5⟩ := by
  have long : (1e-6 : ℝ) ≤ segmentLength ⟨0, 0, 1⟩ ⟨1, 0, 1⟩ := by
    rw [segmentLength_eq, vector_sub, norm_vector]
    norm_num
  exact (tracked_point (TaskController.constructDefault 0 fun _ => (0, 0, 0)) (.now 0) 0 0 ⟨0, 0, .now 0⟩ ⟨3, 4, 5⟩ long).2.1

end FlightStack.Proofs
