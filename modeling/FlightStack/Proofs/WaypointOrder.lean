import FlightStack.Proofs.NominalFlight
import FlightStack.Proofs.TrackedPoint

/-! The waypoints are visited one by one. The index rises by one in a tick that saw
the vehicle at the current waypoint, so a mission that is over names a tick for
each of them. -/

namespace FlightStack.Proofs
open BaseController TaskController OffbNode Mission

section Segments
variable {α : Type} {config : Config α}

theorem setpoints_flight (sent rest : List (Output α)) (base : BaseController α) (unsteered : setpoints sent = []) :
    setpoints (sent ++ taskStatePub base :: rest) = setpoints rest := by
  rw [setpoints, List.filter_append, show sent.filter Output.isSetpoint = [] from unsteered]
  rfl

/-- Where the segment to the waypoint `index` begins. -/
def Begins [Zero α] (config : Config α) : Nat → Position α → Prop
  | 0, start => start = ⟨0, 0, config.takeoffHeight⟩
  | index + 1, start => ∃ previous, config.waypoints[index]? = some previous ∧ start = previous.toPosition

variable [Arithmetic α] {services : Services} {readings : Readings} {node : TaskController α}

/-- A setpoint holds the vehicle to the segment from `start` to a waypoint: it is the
waypoint itself where they are at one place, and else the velocity that goes along the
segment and back to its nearest point. -/
inductive AlongSegment (config : Config α) (now : Time) (position : Position α) (currentYaw : α) (cross : CrossTrack α)
    (start : Position α) (current : Waypoint α) : Output α → Prop where
  | short (close : segmentLength start current.toPosition < 1e-6) :
      AlongSegment config now position currentYaw cross start current
        (publishPositionSetpoint current.x current.y current.z current.yaw)
  | long (apart : 1e-6 ≤ segmentLength start current.toPosition) {span : Int} (since : now.sub cross.lastCrossTime = .ok span) :
      AlongSegment config now position currentYaw cross start current
        (steer start current.toPosition position config now currentYaw current.yaw cross (seconds span)).2

/-- A setpoint is what the follower publishes for the segment to the current waypoint. -/
def Steers (config : Config α) (readings : Readings) (node : TaskController α) (setpoint : Output α) : Prop :=
  ∃ current start cross, config.waypoints[node.currentWaypointIndex]? = some current ∧
    Begins config node.currentWaypointIndex start ∧
    publishPositionSetpointTrajectory config (.now readings.cross) node.localPosition.position node.currentYaw start
      current.toPosition current.yaw node.cross = .ok (cross, setpoint) ∧
    AlongSegment config (.now readings.cross) node.localPosition.position node.currentYaw node.cross start current setpoint

theorem followed_alongSegment {now : Time} {position start : Position α} {currentYaw : α} {current : Waypoint α}
    {cross after : CrossTrack α} {published : Output α}
    (followed : publishPositionSetpointTrajectory config now position currentYaw start current.toPosition current.yaw cross =
      .ok (after, published)) : AlongSegment config now position currentYaw cross start current published := by
  rcases lt_or_ge (segmentLength start current.toPosition) 1e-6 with close | apart
  · rw [follow_short position config now currentYaw current.yaw cross close] at followed
    cases followed
    exact .short close
  · rw [follow_long position config now currentYaw current.yaw cross apart] at followed
    cases since : now.sub cross.lastCrossTime with
    | error fault =>
      rw [since] at followed
      cases followed
    | ok span =>
      rw [since] at followed
      cases followed
      exact .long apart since

/-- In space the velocity goes along the segment and back to its nearest point, whatever
the heading is. -/
theorem AlongSegment.led {config : Config ℝ} {now : Time} {position start : Position ℝ} {currentYaw : ℝ}
    {current : Waypoint ℝ} {cross : CrossTrack ℝ} {published : Output ℝ}
    (along : AlongSegment config now position currentYaw cross start current published)
    (apart : 1e-6 ≤ segmentLength start current.toPosition) : Tracks start current.toPosition position ∧
      ∃ vx vy rate elapsed, published =
          .velocitySetpoint vx vy (-1 * (crossTrack start current.toPosition position).z) rate ∧
        toWorld currentYaw ⟨vx, vy⟩ =
          worldVelocity start current.toPosition position elapsed (toWorld currentYaw (cachedError cross)) := by
  refine ⟨tracks apart position, ?_⟩
  cases along with
  | short close => exact absurd close (not_lt.mpr apart)
  | @long _ span since =>
    obtain ⟨vx, vy, rate, sent, world⟩ :=
      steer_world start current.toPosition position config now currentYaw current.yaw cross (seconds span)
    exact ⟨vx, vy, rate, seconds span, sent, world⟩

theorem segmentStart_begins {index : Nat} {start : Position α} (begun : segmentStart config index = .ok start) :
    Begins config index start := by
  cases index with
  | zero =>
    cases begun
    rfl
  | succ index =>
    rw [segmentStart, if_neg index.succ_ne_zero, Nat.succ_sub_one] at begun
    cases found : waypointAt config index with
    | error fault => rw [found] at begun; cases begun
    | ok previous =>
      rw [found] at begun
      cases begun
      exact ⟨previous, waypointAt_ok config found, rfl⟩

theorem Steered.steers {current : Waypoint α} {start : Position α} {stuck : StuckDetection α} {cross : CrossTrack α}
    {published : Output α} (steered : Steered config readings node current start stuck cross published) :
    Steers config readings node published :=
  ⟨current, start, cross, steered.found, segmentStart_begins steered.begun, steered.followed,
    followed_alongSegment steered.followed⟩

theorem Checked.steers {after : TaskController α} {sent : List (Output α)} {setpoint : Output α}
    (check : Checked config services node after sent) (steers : Steers config readings after setpoint) :
    Steers config readings node setpoint := by
  obtain ⟨position, index, _, cross, _, _, yaw⟩ := check.frame
  simpa only [Steers, position, index, cross, yaw] using steers

/-- A tick that flies to a waypoint publishes one setpoint, on the segment to it.
If the node ends in the tick, it ends before that. -/
theorem tick_steers (ready : node.setpointReady = true)
    (state : (checked config services node).flightState = .waypoint)
    (left : node.currentWaypointIndex < config.waypoints.length) :
    if (timerCallback config services readings node).fault = none then
      ∃ setpoint, setpoints (timerCallback config services readings node).outputs = [setpoint] ∧
        Steers config readings node setpoint
    else setpoints (timerCallback config services readings node).outputs = [] := by
  obtain ⟨sent, flown, check, flight, ran⟩ := tick_flies config services readings node ready
  have more := check.frame.2.1 ▸ left
  rw [ran, setpoints_flight _ _ _ check.unsteered]
  cases flight with
  | fault => rfl
  | @steer _ _ _ _ published _ steered | @arrive _ _ _ _ published _ steered =>
    exact ⟨published, List.filter_eq_self.mpr (by simp [followed_isSetpoint steered.followed]), check.steers steered.steers⟩
  | finished _ done => exact absurd more (Nat.not_lt.mpr done)
  | hold other | climb other | tilt other | touch other | descend other | disarm other | disarmed other
  | approach other => rw [state] at other; cases other

/-- A tick that found the vehicle at the current waypoint. -/
def Visits (config : Config α) (entry : Entry (World α) (Event α) (Output α)) : Prop :=
  ∃ services readings current, entry.event = .tick services readings ∧ entry.before.node.setpointReady = true ∧
    (checked config services entry.before.node).flightState = .waypoint ∧
    config.waypoints[entry.before.node.currentWaypointIndex]? = some current ∧
    distanceToTarget entry.before.node.localPosition.position current.x current.y current.z < config.waypointThreshold

theorem index_step {world after : World α} {event : Event α} {outputs : List (Output α)}
    (taken : (offbNode config).step world event = some (after, outputs)) :
    after.node.currentWaypointIndex = world.node.currentWaypointIndex ∨
      after.node.currentWaypointIndex = world.node.currentWaypointIndex + 1 ∧
        Visits config ⟨world, event, outputs, after⟩ := by
  obtain ⟨_, stepped⟩ := stepped_cases taken
  cases stepped with
  | response | message => exact .inl rfl
  | tick services readings ran ticked =>
    cases ticked with
    | warm => exact .inl rfl
    | flew ready check flight =>
      obtain ⟨position, index, _⟩ := check.frame
      cases flight with
      | @arrive current start stuck cross published state steered near =>
        refine .inr ⟨congrArg (· + 1) index, services, readings, current, rfl, ready, state, index ▸ steered.found, ?_⟩
        rw [← position]
        simpa [isAtPoint] using near
      | hold | climb | finished | fault | steer | tilt | touch | descend | disarm | disarmed | approach =>
        exact .inl index

theorem access_safe {history : History α} {world : World α} (run : (offbNode config).Run history world)
    (index : Nat) : world.fault ≠ some (.access index) := by
  intro faulted
  cases run with
  | refl => cases faulted
  | snoc earlier taken =>
    obtain ⟨alive, stepped⟩ := stepped_cases taken
    cases stepped with
    | response | message => cases faulted
    | tick services readings ran ticked => cases (tick_fault (timed earlier alive) ticked faulted).1

end Segments

variable {α : Type} [Arithmetic α]

theorem waypoints_in_order (config : Config α) {history : History α} {world : World α}
    (run : (offbNode config).Run history world) :
    world.node.currentWaypointIndex ≤ config.waypoints.length ∧
    (∀ entry ∈ history, entry.before.node.currentWaypointIndex ≤ world.node.currentWaypointIndex) ∧
    (∀ entry ∈ history, entry.after.node.currentWaypointIndex = entry.before.node.currentWaypointIndex ∨
      entry.after.node.currentWaypointIndex = entry.before.node.currentWaypointIndex + 1 ∧ Visits config entry) ∧
    (∀ index, world.fault ≠ some (.access index)) ∧
    (∀ entry ∈ history, ∀ services readings, entry.event = .tick services readings →
      entry.before.node.setpointReady = true →
      (checked config services entry.before.node).flightState = .waypoint →
      entry.before.node.currentWaypointIndex < config.waypoints.length →
      if entry.after.fault = none then
        ∃ setpoint, setpoints entry.outputs = [setpoint] ∧ Steers config readings entry.before.node setpoint
      else setpoints entry.outputs = []) ∧
    (number .waypoint < number world.node.flightState →
      ∃ times : Nat → Nat,
        (∀ first second, first < second → second < config.waypoints.length → times first < times second) ∧
        ∀ index, index < config.waypoints.length → ∃ waypoint entry, config.waypoints[index]? = some waypoint ∧
          history[times index]? = some entry ∧ entry.event.isTick = true ∧
          distanceToTarget entry.before.node.localPosition.position waypoint.x waypoint.y waypoint.z <
            config.waypointThreshold) := by
  have sound := stage_sound run
  have steps : ∀ entry ∈ history, entry.after.node.currentWaypointIndex = entry.before.node.currentWaypointIndex ∨
      entry.after.node.currentWaypointIndex = entry.before.node.currentWaypointIndex + 1 ∧ Visits config entry := by
    intro entry member
    have taken := run.taken member
    exact index_step taken
  refine ⟨sound.bounded, ?_, steps, access_safe run, ?_, ?_⟩
  · intro entry member
    obtain ⟨_, _, _, _, taken, rest⟩ := run.mem member
    exact path_visited (.cons taken rest)
  · rintro ⟨before, event, outputs, after⟩ member services readings rfl ready state left
    have taken := run.taken member
    dsimp only at taken state left ready ⊢
    rw [step_tick config services readings (stepped_cases taken).1] at taken
    cases taken
    exact tick_steers ready state left
  · intro past
    obtain ⟨times, ordered, visits⟩ := run.climbs (fun world => world.node.currentWaypointIndex) rfl
      fun entry member => (steps entry member).imp_right And.left
    have finished : world.node.currentWaypointIndex = config.waypoints.length := sound.finished past
    rw [finished] at ordered visits
    refine ⟨times, ordered, fun index inside => ?_⟩
    obtain ⟨entry, found, before, after⟩ := visits index inside
    rcases steps entry (List.mem_of_getElem? found) with same | ⟨_, services, readings, current, tick, _, _, held, near⟩
    · omega
    · exact ⟨current, entry, before ▸ held, found, by rw [tick]; rfl, near⟩

theorem waypoints_in_order_stock : ∃ history world, (offbNode stock).Run history world ∧ world.node.flightState = .land ∧
    ∃ times : Nat → Nat, times 0 < times 1 ∧ times 1 < times 2 ∧
      ∃ entry, history[times 2]? = some entry ∧ entry.event.isTick = true := by
  obtain ⟨world, flying⟩ := stock_flyable.lands
  obtain ⟨history, run⟩ := flying.reachable
  obtain ⟨_, _, _, _, _, visited⟩ := waypoints_in_order stock run
  obtain ⟨times, ordered, visits⟩ := visited (by rw [flying.state]; decide)
  have three : stock.waypoints.length = 3 := rfl
  obtain ⟨_, entry, _, found, tick, _⟩ := visits 2 (by omega)
  exact ⟨history, world, run, flying.state, times, ordered 0 1 (by omega) (by omega), ordered 1 2 (by omega) (by omega),
    entry, found, tick⟩

end FlightStack.Proofs
