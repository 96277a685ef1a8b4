import FlightStack.Proofs.Follower
import FlightStack.Proofs.YawWrapping
import Mathlib.Analysis.Real.Pi.Bounds

/-! The three places that wrap a yaw. The segment follower and `shortest_angular_distance`
always agree, the hover check agrees with them for targets up to three half turns away. -/

namespace FlightStack.Proofs
open BaseController HoverController
variable {α ι : Type} [Arithmetic α]

/-- The three places give the same angle for the heading and the target of the node, and
a target in the direction of the heading counts as reached. -/
structure YawAgrees (node : HoverController α ι) : Prop where
  tested : ∀ positionTolerance yawTolerance : α, checkHoverPositionReached
      { node with hoverConfig := { node.hoverConfig with positionTolerance, yawTolerance } } = true ↔
    positionError node < positionTolerance ∧
      |shortestAngularDistance node.currentYaw node.hoverConfig.yaw| < yawTolerance
  steered : ∀ (config : Config α) (now : Time) (position start goal : Position α) (cross after : CrossTrack α)
      (published : Output α), 1e-6 ≤ segmentLength start goal →
    publishPositionSetpointTrajectory config now position node.currentYaw start goal node.hoverConfig.yaw cross =
      .ok (after, published) → ∃ vx vy vz, published =
        publishVelocityBody config vx vy vz (1 * shortestAngularDistance node.currentYaw node.hoverConfig.yaw)
  recognised : (∃ turns : Int, node.hoverConfig.yaw - node.currentYaw = turns * (2 * pi)) →
    positionError node < node.hoverConfig.positionTolerance → 0 < node.hoverConfig.yawTolerance →
      node.checkHoverPositionReached = true

theorem shortest_wrapped (current target : α) : |shortestAngularDistance current target| = |wrapped (current - target)| := by
  change |wrapped (target - current)| = _
  rw [← neg_sub, wrapped_neg, abs_neg]

theorem follower_steers {config : Config α} {now : Time} {position start goal : Position α} {currentYaw targetYaw : α}
    {cross after : CrossTrack α} {published : Output α} (long : 1e-6 ≤ segmentLength start goal)
    (ran : publishPositionSetpointTrajectory config now position currentYaw start goal targetYaw cross =
      .ok (after, published)) :
    ∃ vx vy vz, published = publishVelocityBody config vx vy vz (1 * shortestAngularDistance currentYaw targetYaw) := by
  obtain ⟨elapsed, stepped⟩ := follow_ran position config now currentYaw targetYaw cross long ran
  exact ⟨_, _, _, (congrArg Prod.snd stepped).symm⟩

theorem shortest_full_turns {current target : α} (same : ∃ turns : Int, target - current = turns * (2 * pi)) :
    |shortestAngularDistance current target| = 0 := by
  obtain ⟨turns, apart⟩ := same
  have whole : 0 ≡ target - current [PMOD 2 * pi] :=
    AddCommGroup.modEq_iff_zsmul'.mpr ⟨turns, by rw [sub_zero, apart, zsmul_eq_mul]⟩
  exact le_antisymm ((wrapped_least whole).trans abs_zero.le) (abs_nonneg _)

/-- The three places agree exactly for targets of at most three half turns away. -/
theorem yaw_agrees_iff (node : HoverController α ι) :
    YawAgrees node ↔ |node.hoverConfig.yaw - node.currentYaw| ≤ 3 * pi := by
  rw [abs_sub_comm, ← abs_wrapOnce_eq_iff, ← shortest_wrapped]
  constructor
  · intro agrees
    -- a check that passes below the same tolerances tests the same error
    apply eq_of_forall_gt_iff
    intro yawTolerance
    have near : positionError node < positionError node + 1 := lt_add_one _
    have tested := reached_iff.symm.trans (agrees.tested (positionError node + 1) yawTolerance)
    exact (and_iff_right near).symm.trans (tested.trans (and_iff_right near))
  · intro same
    constructor
    · intro positionTolerance yawTolerance
      rw [← same]
      exact reached_iff
    · intro config now position start goal cross after published long ran
      exact follower_steers long ran
    · intro turned near tolerant
      rw [reached_iff, same, shortest_full_turns turned]
      exact ⟨near, tolerant⟩

/-- A vehicle at the origin, asked to hover there two turns from its heading. -/
noncomputable def twoTurns : HoverController ℝ Unit :=
  (startHoverAtPosition 0 0 0 (4 * pi) 1 (.now 0) (.construct (TaskController.constructDefault 0 fun _ => (0, 0, 0)))).1

/-- It does not notice that it is there. -/
theorem two_turns_unrecognised : twoTurns.currentYaw = 0 ∧ twoTurns.hoverConfig.yaw = 4 * pi ∧
    |shortestAngularDistance twoTurns.currentYaw twoTurns.hoverConfig.yaw| = 0 ∧
    twoTurns.checkHoverPositionReached = false ∧ twoTurns.hoverState = .positioning ∧ ¬ YawAgrees twoTurns := by
  let target : HoverConfig ℝ Unit := { (.construct : HoverConfig ℝ Unit) with
    x := 0, y := 0, z := 0, yaw := 4 * pi, duration := 1, useCurrentPosition := false }
  let arrived : HoverController ℝ Unit :=
    ⟨.initial (TaskController.constructDefault 0 fun _ => (0, 0, 0)), .idle, target, {}⟩
  have turned : ∃ turns : Int, (4 * pi - 0 : ℝ) = turns * (2 * pi) := by
    refine ⟨2, ?_⟩
    push_cast
    ring
  have unreached : ¬ arrived.checkHoverPositionReached = true := by
    intro reached
    have aligned : |wrapOnce (0 - 4 * pi : ℝ)| < 0.05 := (reached_iff.mp reached).2
    have turn : (3 : ℝ) < pi := Real.pi_gt_three
    have within := (abs_wrapOnce_le_iff (0 - 4 * pi : ℝ)).mp (by linarith)
    rw [zero_sub, abs_neg, abs_of_pos (by linarith)] at within
    linarith
  have travels : twoTurns = { arrived with hoverState := .positioning } := congrArg Prod.fst (if_neg unreached)
  rw [travels]
  refine ⟨rfl, rfl, shortest_full_turns turned, Bool.eq_false_of_not_eq_true unreached, rfl, ?_⟩
  intro agrees
  apply unreached
  apply agrees.recognised turned
  · change Real.sqrt ((0 - 0) * (0 - 0) + (0 - 0) * (0 - 0) + (0 - 0) * (0 - 0)) < 0.05
    norm_num
  · change (0 : ℝ) < 0.05
    norm_num

end FlightStack.Proofs
