import FlightStack.Proofs.NominalFlight

/-! The fence and the setpoints. Whatever a tick asks the autopilot to hold, from a
position inside the fence, is inside the fence too. -/

namespace FlightStack.Proofs
open BaseController TaskController OffbNode

/-- All that a list of outputs asks to hold is inside. -/
def Contained (outputs : List (Output ℝ)) : Prop :=
  ∀ x y z yaw, .positionSetpoint x y z yaw ∈ outputs → Inside (⟨x, y, z⟩ : Position ℝ)

theorem contained_nil : Contained [] := by
  intro x y z yaw sent
  cases sent

theorem contained_position {x y z : ℝ} (inside : Inside (⟨x, y, z⟩ : Position ℝ)) (yaw : ℝ) :
    Contained [publishPositionSetpoint x y z yaw] := by
  intro targetX targetY targetZ targetYaw sent
  cases List.mem_singleton.mp sent
  exact inside

theorem contained_velocity (config : Config ℝ) (x y z yaw : ℝ) {rest : List (Output ℝ)} (others : Contained rest) :
    Contained (publishVelocityBody config x y z yaw :: rest) := by
  intro targetX targetY targetZ targetYaw sent
  rcases List.mem_cons.mp sent with same | later
  · cases same
  · exact others targetX targetY targetZ targetYaw later

/-! The landing circle -/

/-- A step of length one towards the landing point stays inside the unit circle. -/
theorem direction_le (x y : ℝ) : |(0 - x) / Real.sqrt ((x - 0) ^ 2 + (y - 0) ^ 2)| ≤ 1 := by
  have long : |x| ≤ Real.sqrt ((x - 0) ^ 2 + (y - 0) ^ 2) := by
    apply Real.abs_le_sqrt
    nlinarith [sq_nonneg y]
  rw [abs_div, zero_sub, abs_neg, abs_of_nonneg (Real.sqrt_nonneg _)]
  exact div_le_one_of_le₀ long (Real.sqrt_nonneg _)

/-- The start of the 45 degree line is no farther out than the vehicle is high. -/
theorem circle_inside {direction directionY height : ℝ} (unit : |direction| ≤ 1) (unitY : |directionY| ≤ 1)
    (low : |height| < 2.5) :
    Inside (⟨0 - direction * height, 0 - directionY * height, height⟩ : Position ℝ) := by
  have within {direction : ℝ} (unit : |direction| ≤ 1) : |0 - direction * height| < 7 := by
    rw [zero_sub, abs_neg, abs_mul]
    calc |direction| * |height| ≤ 1 * |height| := mul_le_mul_of_nonneg_right unit (abs_nonneg height)
      _ < 7 := by linarith
  exact ⟨within unit, within unitY, low⟩

theorem tiltLand_contained (config : Config ℝ) {position : Position ℝ} (inside : Inside position) (currentYaw : ℝ)
    (tilt : TiltStage) : Contained (tiltLand config position currentYaw tilt).2.2 := by
  simp only [tiltLand]
  split
  · exact contained_nil
  · split
    · refine contained_position (circle_inside ?_ ?_ inside.2.2) 0
      · split
        · exact direction_le position.x position.y
        · norm_num
      · split
        · have other := direction_le position.y position.x
          rwa [add_comm] at other
        · norm_num
    · exact contained_velocity config _ _ _ _ contained_nil

/-! One tick -/

theorem followed_contained {config : Config ℝ} {now : Time} {position start goal : Position ℝ}
    {currentYaw targetYaw : ℝ} {cross after : CrossTrack ℝ} {published : Output ℝ}
    (followed : publishPositionSetpointTrajectory config now position currentYaw start goal targetYaw cross =
      .ok (after, published)) (inside : Inside goal) : Contained [published] := by
  unfold publishPositionSetpointTrajectory at followed
  dsimp only at followed
  split at followed
  · cases followed
    exact contained_position inside targetYaw
  · cases elapsed : now.sub cross.lastCrossTime with
    | error fault => rw [elapsed] at followed; cases followed
    | ok span =>
      rw [elapsed] at followed
      cases followed
      exact contained_velocity config _ _ _ _ contained_nil

variable {config : Config ℝ} {services : Services} {readings : Readings} {node : TaskController ℝ}

theorem Flown.contained {outcome : Outcome ℝ} (flight : Flown config services readings node outcome)
    (height : |config.takeoffHeight| < 2.5) (fenced : ∀ waypoint ∈ config.waypoints, Inside waypoint.toPosition)
    (inside : Inside node.localPosition.position) : Contained outcome.outputs := by
  cases flight with
  | hold => exact contained_position inside 0
  | climb => exact contained_position ⟨by norm_num, by norm_num, height⟩ 0
  | finished | fault | touch | approach => exact contained_nil
  | steer _ steered | arrive _ steered =>
    exact followed_contained steered.followed (fenced _ (List.mem_of_getElem? steered.found))
  | tilt => exact tiltLand_contained config inside node.currentYaw node.tilt
  | descend | disarmed => exact contained_velocity config _ _ _ _ contained_nil
  | disarm =>
    apply contained_velocity
    intro x y z yaw sent
    cases List.mem_singleton.mp sent

theorem Checked.unheld {after : TaskController ℝ} {sent : List (Output ℝ)}
    (check : Checked config services node after sent) : Contained sent := by
  intro x y z yaw member
  have steered : .positionSetpoint x y z yaw ∈ setpoints sent := List.mem_filter.mpr ⟨member, rfl⟩
  rw [check.unsteered] at steered
  cases steered

theorem tick_contained (config : Config ℝ) (services : Services) (readings : Readings)
    (height : |config.takeoffHeight| < 2.5) (fenced : ∀ waypoint ∈ config.waypoints, Inside waypoint.toPosition)
    (ready : node.setpointReady = true) (inside : Inside node.localPosition.position) :
    Contained (timerCallback config services readings node).outputs := by
  obtain ⟨sent, flown, check, flight, ran⟩ := tick_flies config services readings node ready
  have held := flight.contained height fenced (check.frame.1 ▸ inside)
  intro x y z yaw member
  rw [ran] at member
  rcases List.mem_append.mp member with early | later
  · exact check.unheld x y z yaw early
  · rcases List.mem_cons.mp later with info | flew
    · cases info
    · exact held x y z yaw flew

theorem setpoints_inside (config : Config ℝ) (height : |config.takeoffHeight| < 2.5)
    (fenced : ∀ waypoint ∈ config.waypoints, Inside waypoint.toPosition) {history : History ℝ} {world : World ℝ}
    (run : (offbNode config).Run history world) {entry : Entry (World ℝ) (Event ℝ) (Output ℝ)} (member : entry ∈ history)
    (tick : entry.event.isTick = true) (ready : entry.before.node.setpointReady = true)
    (inside : Inside entry.before.node.localPosition.position) {x y z yaw : ℝ}
    (published : .positionSetpoint x y z yaw ∈ entry.outputs) : |x| < 7 ∧ |y| < 7 ∧ |z| < 2.5 := by
  have taken := run.taken member
  obtain ⟨_, stepped⟩ := stepped_cases taken
  obtain ⟨before, event, outputs, after⟩ := entry
  dsimp only at stepped tick ready inside published
  cases stepped with
  | tick services readings ran =>
    rw [← ran] at published
    exact tick_contained config services readings height fenced ready inside x y z yaw published
  | response | message => cases published

theorem checked_low (inside : Inside node.localPosition.position) (state : node.flightState = .takeoff)
    (low : config.waypointThreshold < |node.localPosition.position.z - config.takeoffHeight|) :
    checked config services node = node := by
  simp only [checked, checkTaskSwitchConditions, emergency_eq _ inside, Bool.false_eq_true, if_false, state,
    not_le.mpr low]

theorem Flown.of_takeoff {outcome : Outcome ℝ} (flight : Flown config services readings node outcome)
    (state : node.flightState = .takeoff) : outcome.outputs = [publishPositionSetpoint 0 0 config.takeoffHeight 0] := by
  cases flight with
  | climb => rfl
  | hold other | finished other | fault _ other | steer other | arrive other | tilt other | touch other | descend other
  | disarm other | disarmed other | approach other => rw [state] at other; cases other

/-- The stock mission, seen on its way up. -/
theorem setpoints_inside_stock : ∃ history world, (offbNode stock).Run history world ∧
    ∃ entry ∈ history, entry.before.node.flightState = .takeoff ∧
      ∃ x y z yaw, .positionSetpoint x y z yaw ∈ entry.outputs ∧ |x| < 7 ∧ |y| < 7 ∧ |z| < 2.5 := by
  obtain ⟨start, departed, _, _⟩ := takes_off stock
  obtain ⟨world, flying, position, _⟩ := departed.move ⟨0, 0, 0.5⟩
  obtain ⟨history, run⟩ := flying.reachable
  have inside : Inside world.node.localPosition.position := by
    rw [position]
    norm_num [Inside, abs_of_pos]
  have low : stock.waypointThreshold < |world.node.localPosition.position.z - stock.takeoffHeight| := by
    rw [position]
    norm_num [stock, constructDefault, construct, abs_of_neg]
  obtain ⟨sent, flown, _, flight, ran⟩ := tick_flies stock served calm world.node flying.ready
  rw [checked_low inside flying.state low] at flight
  have published : .positionSetpoint 0 0 stock.takeoffHeight 0 ∈ (timerCallback stock served calm world.node).outputs := by
    rw [ran, flight.of_takeoff flying.state]
    simp [publishPositionSetpoint]
  have taken := run.snoc (step_tick stock served calm flying.alive)
  refine ⟨_, _, taken, _, List.mem_concat_self, flying.state, 0, 0, stock.takeoffHeight, 0, published, ?_⟩
  refine setpoints_inside stock ?_ stock_flyable.fenced taken List.mem_concat_self rfl flying.ready inside published
  norm_num [stock, constructDefault, construct]

end FlightStack.Proofs
