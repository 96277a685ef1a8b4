import FlightStack.Proofs.TrackedPoint

/-! Whether the segment follower leads on. Its horizontal velocity goes along the segment
and towards it, the vertical one only towards it. On a vertical segment nothing goes along. -/

namespace FlightStack.Proofs
open BaseController
open scoped RealInnerProductSpace

variable {start goal position : Position ℝ}

/-- The inner product of a velocity, horizontal in the world and vertical, with what is
left of the way. -/
def headway (position goal : Position ℝ) (horizontal : ℂ) (vertical : ℝ) : ℝ :=
  horizontal.re * (goal.x - position.x) + horizontal.im * (goal.y - position.y) + vertical * (goal.z - position.z)

/-- The segment goes straight up or down, and the vehicle is on it. -/
structure OnVertical (start goal position : Position ℝ) : Prop where
  x : start.x = goal.x
  y : start.y = goal.y
  member : vector position ∈ segment ℝ (vector start) (vector goal)

/-- The parts of what is left of the way: along the segment, and back to it. -/
theorem remaining (long : 1e-6 ≤ segmentLength start goal) (position : Position ℝ) :
    goal.x - position.x =
      alongTrackError start goal position * (direction start goal).x - (crossTrack start goal position).x ∧
    goal.y - position.y =
      alongTrackError start goal position * (direction start goal).y - (crossTrack start goal position).y ∧
    goal.z - position.z =
      alongTrackError start goal position * (direction start goal).z - (crossTrack start goal position).z := by
  have left := (straightPath start goal long).goal_sub (vector position)
  rw [straightPath_goal, straightPath_progress, straightPath_offset] at left
  have coordinate (index : Fin 3) := congrArg (· index) left
  exact ⟨coordinate 0, coordinate 1, coordinate 2⟩

/-- What is left of the segment does not lead back to the vehicle. -/
theorem along_cross (long : 1e-6 ≤ segmentLength start goal) (position : Position ℝ) :
    alongTrackError start goal position * ((crossTrack start goal position).x * (direction start goal).x +
      (crossTrack start goal position).y * (direction start goal).y +
      (crossTrack start goal position).z * (direction start goal).z) ≤ 0 := by
  let path := straightPath start goal long
  have outward := path.offset_outward (vector position) path.positive.le le_rfl
  rw [straightPath_offset, straightPath_progress, show path.direction = vector (direction start goal) from rfl,
    inner_vector] at outward
  exact outward

theorem position_ext {first second : Position ℝ} (x : first.x = second.x) (y : first.y = second.y)
    (z : first.z = second.z) : first = second := by
  cases first
  cases second
  simp_all

theorem eq_closest_iff : crossTrack start goal position = ⟨0, 0, 0⟩ ↔ position = closest start goal position := by
  constructor
  · intro none
    apply position_ext
    · exact sub_eq_zero.mp (congrArg Position.x none)
    · exact sub_eq_zero.mp (congrArg Position.y none)
    · exact sub_eq_zero.mp (congrArg Position.z none)
  · intro same
    apply position_ext
    · exact sub_eq_zero.mpr (congrArg Position.x same)
    · exact sub_eq_zero.mpr (congrArg Position.y same)
    · exact sub_eq_zero.mpr (congrArg Position.z same)

theorem on_segment_iff (long : 1e-6 ≤ segmentLength start goal) :
    vector position ∈ segment ℝ (vector start) (vector goal) ↔ crossTrack start goal position = ⟨0, 0, 0⟩ := by
  have tracks := tracks long position
  rw [eq_closest_iff]
  constructor
  · intro member
    have near := tracks.nearest _ member
    rw [dist_self] at near
    exact vector_injective (dist_le_zero.mp near)
  · intro same
    rw [same]
    exact same ▸ tracks.member

/-- The velocity without a derivative term makes at least this headway. -/
theorem headway_ge (long : 1e-6 ≤ segmentLength start goal) (elapsed : ℝ) :
    (alongTrackError start goal position * (direction start goal).x - (crossTrack start goal position).x) ^ 2 +
      (alongTrackError start goal position * (direction start goal).y - (crossTrack start goal position).y) ^ 2 +
      ((crossTrack start goal position).x ^ 2 + (crossTrack start goal position).y ^ 2 +
        (crossTrack start goal position).z ^ 2) ≤
      headway position goal
        (worldVelocity start goal position elapsed (footprint (crossTrack start goal position)))
        (-1 * (crossTrack start goal position).z) := by
  obtain ⟨x, y, z⟩ := remaining long position
  have back := along_cross long position
  simp only [headway, worldVelocity, sub_self, smul_zero, add_zero, x, y, z, Complex.sub_re, Complex.sub_im,
    Complex.smul_re, Complex.smul_im, footprint, smul_eq_mul]
  linarith

private theorem squares_zero {a b c d e : ℝ} (none : a ^ 2 + b ^ 2 + (c ^ 2 + d ^ 2 + e ^ 2) ≤ 0) :
    a = 0 ∧ b = 0 ∧ c = 0 ∧ d = 0 ∧ e = 0 := by
  have small {value : ℝ} (low : value ^ 2 ≤ 0) : value = 0 := sq_nonpos_iff value |>.mp low
  refine ⟨small ?_, small ?_, small ?_, small ?_, small ?_⟩ <;>
    linarith [sq_nonneg a, sq_nonneg b, sq_nonneg c, sq_nonneg d, sq_nonneg e]

theorem OnVertical.still (vertical : OnVertical start goal position) (long : 1e-6 ≤ segmentLength start goal)
    (elapsed : ℝ) : crossTrack start goal position = ⟨0, 0, 0⟩ ∧
      worldVelocity start goal position elapsed (footprint (crossTrack start goal position)) = 0 := by
  have none := (on_segment_iff long).mp vertical.member
  have level : footprint (direction start goal) = 0 := by
    simp only [footprint, direction, vertical.x, vertical.y, sub_self, zero_div]
    rfl
  refine ⟨none, ?_⟩
  rw [worldVelocity, level, none, show footprint ⟨0, 0, 0⟩ = 0 from rfl]
  simp

theorem headway_pos_iff (long : 1e-6 ≤ segmentLength start goal) (short : position ≠ goal) (elapsed : ℝ) :
    0 < headway position goal
        (worldVelocity start goal position elapsed (footprint (crossTrack start goal position)))
        (-1 * (crossTrack start goal position).z) ↔ ¬ OnVertical start goal position := by
  constructor
  · intro leads vertical
    obtain ⟨none, still⟩ := vertical.still long elapsed
    rw [headway, still, none] at leads
    norm_num at leads
  · intro free
    by_contra stuck
    have bound := (headway_ge long elapsed).trans (not_lt.mp stuck)
    obtain ⟨alongX, alongY, x, y, z⟩ := squares_zero bound
    have none : crossTrack start goal position = ⟨0, 0, 0⟩ := position_ext x y z
    rw [x, sub_zero] at alongX
    rw [y, sub_zero] at alongY
    obtain ⟨leftX, leftY, leftZ⟩ := remaining long position
    have unfinished : alongTrackError start goal position ≠ 0 := by
      intro finished
      rw [finished, zero_mul] at leftX leftY leftZ
      apply short (position_ext _ _ _) <;> linarith
    have level {first last : ℝ}
        (flat : alongTrackError start goal position * ((last - first) / segmentLength start goal) = 0) : first = last := by
      have positive : segmentLength start goal ≠ 0 := (straightPath start goal long).positive.ne'
      have none := (div_eq_zero_iff.mp ((mul_eq_zero.mp flat).resolve_left unfinished)).resolve_right positive
      exact (sub_eq_zero.mp none).symm
    exact free ⟨level alongX, level alongY, (on_segment_iff long).mpr none⟩

/-- With the cached error unchanged, the derivative terms vanish. -/
theorem published_steady {config : Config ℝ} {now : Time} {currentYaw targetYaw : ℝ} {cross after : CrossTrack ℝ}
    {published : Output ℝ} (long : 1e-6 ≤ segmentLength start goal)
    (ran : publishPositionSetpointTrajectory config now position currentYaw start goal targetYaw cross =
      .ok (after, published))
    (steadyX : after.lastCrossErrX = cross.lastCrossErrX) (steadyY : after.lastCrossErrY = cross.lastCrossErrY) :
    ∃ vx vy rate elapsed, published = .velocitySetpoint vx vy (-1 * (crossTrack start goal position).z) rate ∧
      toWorld currentYaw ⟨vx, vy⟩ =
        worldVelocity start goal position elapsed (footprint (crossTrack start goal position)) := by
  obtain ⟨elapsed, stepped⟩ := follow_ran position config now currentYaw targetYaw cross long ran
  obtain ⟨vx, vy, rate, sent, world⟩ := steer_world start goal position config now currentYaw targetYaw cross elapsed
  have cached := cachedError_steer start goal position config now currentYaw targetYaw cross elapsed
  have steady : cachedError after = cachedError cross := Complex.ext steadyX steadyY
  rw [stepped] at sent cached
  rw [← steady, cached] at world
  exact ⟨vx, vy, rate, elapsed, sent, world⟩

/-- At the start of its segment the vehicle has no error that could change. -/
theorem starts_steady (config : Config ℝ) (long : 1e-6 ≤ segmentLength start goal) : ∃ after published,
    publishPositionSetpointTrajectory config (.now 0) start 0 start goal 0 ⟨0, 0, .now 0⟩ = .ok (after, published) ∧
      after.lastCrossErrX = 0 ∧ after.lastCrossErrY = 0 := by
  have none : crossTrack start goal start = ⟨0, 0, 0⟩ := (on_segment_iff long).mp (left_mem_segment ℝ _ _)
  refine ⟨_, _, follow_long start config (.now 0) 0 0 ⟨0, 0, .now 0⟩ long, ?_, ?_⟩
  · simp [bodyError, none]
  · simp [bodyError, none]

/-- With the cached error unchanged, what is published leads on everywhere but on a
vertical segment. -/
theorem leads_on_iff (config : Config ℝ) {now : Time} {currentYaw targetYaw : ℝ} {cross after : CrossTrack ℝ}
    {published : Output ℝ} (long : 1e-6 ≤ segmentLength start goal) (short : position ≠ goal)
    (ran : publishPositionSetpointTrajectory config now position currentYaw start goal targetYaw cross =
      .ok (after, published))
    (steadyX : after.lastCrossErrX = cross.lastCrossErrX) (steadyY : after.lastCrossErrY = cross.lastCrossErrY) :
    (∃ vx vy vz rate, published = .velocitySetpoint vx vy vz rate ∧
      0 < headway position goal (toWorld currentYaw ⟨vx, vy⟩) vz) ↔ ¬ OnVertical start goal position := by
  obtain ⟨vx, vy, rate, elapsed, sent, world⟩ := published_steady long ran steadyX steadyY
  rw [← headway_pos_iff long short elapsed, ← world]
  constructor
  · intro found
    obtain ⟨_, _, _, _, same, leads⟩ := found
    cases sent.symm.trans same
    exact leads
  · intro leads
    exact ⟨_, _, _, _, sent, leads⟩

theorem leads_on_level : ∃ (published : Output ℝ) (vx vy vz rate : ℝ), published = .velocitySetpoint vx vy vz rate ∧
    0 < headway (⟨0, 0, 1⟩ : Position ℝ) ⟨1, 0, 1⟩ (toWorld 0 ⟨vx, vy⟩) vz := by
  have long : (1e-6 : ℝ) ≤ segmentLength ⟨0, 0, 1⟩ ⟨1, 0, 1⟩ := by
    rw [segmentLength_eq, vector_sub, norm_vector]
    norm_num
  obtain ⟨after, published, ran, steadyX, steadyY⟩ := starts_steady (TaskController.constructDefault 0 fun _ => (0, 0, 0)) long
  refine ⟨published, (leads_on_iff _ long ?_ ran steadyX steadyY).mpr ?_⟩
  · intro same
    simp at same
  · intro vertical
    exact zero_ne_one vertical.x

/-- At the foot of a vertical segment the vehicle is told to stand still. -/
theorem stands_at_foot : 1e-6 ≤ segmentLength (⟨0, 0, 0⟩ : Position ℝ) ⟨0, 0, 1⟩ ∧
    (⟨0, 0, 0⟩ : Position ℝ) ≠ ⟨0, 0, 1⟩ ∧ ∃ (after : CrossTrack ℝ) (published : Output ℝ),
    publishPositionSetpointTrajectory (TaskController.constructDefault 0 fun _ => (0, 0, 0)) (.now 0) ⟨0, 0, 0⟩ 0
      ⟨0, 0, 0⟩ ⟨0, 0, 1⟩ 0 ⟨0, 0, .now 0⟩ = .ok (after, published) ∧
    after.lastCrossErrX = 0 ∧ after.lastCrossErrY = 0 ∧ (∃ rate, published = .velocitySetpoint 0 0 0 rate) ∧
    ¬ ∃ vx vy vz rate, published = .velocitySetpoint vx vy vz rate ∧
      0 < headway (⟨0, 0, 0⟩ : Position ℝ) ⟨0, 0, 1⟩ (toWorld 0 ⟨vx, vy⟩) vz := by
  let foot : Position ℝ := ⟨0, 0, 0⟩
  let top : Position ℝ := ⟨0, 0, 1⟩
  have long : (1e-6 : ℝ) ≤ segmentLength foot top := by
    rw [segmentLength_eq, vector_sub, norm_vector]
    norm_num [foot, top]
  have vertical : OnVertical foot top foot := ⟨rfl, rfl, left_mem_segment ℝ _ _⟩
  obtain ⟨after, published, ran, steadyX, steadyY⟩ :=
    starts_steady (TaskController.constructDefault 0 fun _ => (0, 0, 0)) long
  obtain ⟨vx, vy, rate, elapsed, sent, world⟩ := published_steady long ran steadyX steadyY
  obtain ⟨none, still⟩ := vertical.still long elapsed
  have halts : (⟨vx, vy⟩ : ℂ) = 0 := (map_eq_zero_iff _ (toWorld 0).injective).mp (world.trans still)
  obtain ⟨rfl, rfl⟩ : vx = 0 ∧ vy = 0 := ⟨congrArg Complex.re halts, congrArg Complex.im halts⟩
  rw [none, mul_zero] at sent
  refine ⟨long, ?_, after, published, ran, steadyX, steadyY, ⟨rate, sent⟩, ?_⟩
  · intro same
    simp at same
  · intro leads
    obtain ⟨_, _, _, _, same, leads⟩ := leads
    cases sent.symm.trans same
    rw [halts, map_zero] at leads
    norm_num [headway] at leads

end FlightStack.Proofs
