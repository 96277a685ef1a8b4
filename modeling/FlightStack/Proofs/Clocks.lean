import FlightStack.Proofs.MissionRefinement

/-! Which clock each time of the node is on. All of them are on the node's own
clock before they are read, except the reference time of the stuck detection in
the tick that ends the climb. -/

namespace FlightStack.Proofs
open BaseController TaskController OffbNode Mission
variable {α : Type} [Arithmetic α]

@[simp] theorem now_clock (reading : Int) : (Time.now reading).clock = .ros := rfl

theorem sub_same {left right : Time} (same : left.clock = right.clock) :
    left.sub right = .ok (left.nanoseconds - right.nanoseconds) := if_pos same

theorem ge_same {left right : Time} (same : left.clock = right.clock) :
    left.ge right = .ok (decide (right.nanoseconds ≤ left.nanoseconds)) := if_pos same

/-- The times that back a raised flag of the stuck detection. -/
structure StuckClocks (stuck : StuckDetection α) : Prop where
  detected : stuck.positionStuckDetected = true →
    stuck.stuckDetectionTime.clock = .ros ∧ stuck.ignoreTargetUntil.clock = .ros
  ignoring : stuck.ignoringTargets = true → stuck.ignoreTargetUntil.clock = .ros

theorem StuckClocks.initial : StuckClocks (StuckDetection.initial : StuckDetection α) :=
  ⟨nofun, nofun⟩

omit [Arithmetic α] in
theorem StuckClocks.reset {stuck : StuckDetection α} (reading : Int) (position : Position α) :
    StuckClocks (resetPositionStuckDetection (.now reading) position stuck) :=
  ⟨nofun, nofun⟩

def positionChange (position : Position α) (stuck : StuckDetection α) : α :=
  sqrt ((position.x - stuck.lastPositionX) ^ 2 + (position.y - stuck.lastPositionY) ^ 2 +
    (position.z - stuck.lastPositionZ) ^ 2)

section Check
variable (threshold : α) (reading : Int) (position : Position α) {stuck : StuckDetection α}

/-- The first part throws exactly when the vehicle has not moved and the
reference time is still the default. Otherwise it leaves a time of the node. -/
private theorem track_cases (clocks : StuckClocks stuck) :
    (∃ tracked, trackMovement threshold (.now reading) position stuck = .ok tracked ∧ StuckClocks tracked ∧
        tracked.lastPositionTime.clock = .ros) ∨
      (trackMovement threshold (.now reading) position stuck =
          .error (.subtract (.now reading) stuck.lastPositionTime) ∧
        stuck.lastPositionTime.clock = .system ∧ positionChange position stuck ≤ threshold) := by
  unfold trackMovement
  dsimp only
  split
  · exact .inl ⟨_, rfl, ⟨nofun, clocks.ignoring⟩, rfl⟩
  next still =>
    cases clock : stuck.lastPositionTime.clock with
    | ros =>
      left
      rw [sub_same (by rw [now_clock, clock])]
      refine ⟨_, rfl, ?_⟩
      split
      · exact ⟨⟨fun _ => ⟨rfl, rfl⟩, fun _ => rfl⟩, clock⟩
      · exact ⟨clocks, clock⟩
    | system =>
      right
      rw [Time.sub, if_neg (by rw [now_clock, clock]; decide)]
      exact ⟨rfl, rfl, not_lt.mp still⟩

omit [Arithmetic α] in
private theorem window_ok (clocks : StuckClocks stuck) :
    ∃ windowed, closeIgnoreWindow (.now reading) stuck = .ok windowed ∧ StuckClocks windowed ∧
      windowed.lastPositionTime = stuck.lastPositionTime := by
  unfold closeIgnoreWindow
  split
  next ignoring =>
    rw [ge_same (by rw [now_clock, clocks.ignoring ignoring])]
    refine ⟨_, rfl, ?_⟩
    split
    · exact ⟨⟨clocks.detected, nofun⟩, rfl⟩
    · exact ⟨clocks, rfl⟩
  next => exact ⟨stuck, rfl, clocks, rfl⟩

omit [Arithmetic α] in
theorem log_ok (clocks : StuckClocks stuck) : logStuck (.now reading) stuck = .ok () := by
  unfold logStuck
  split
  next detected =>
    obtain ⟨began, until_⟩ := clocks.detected detected
    rw [sub_same (by rw [now_clock, began]), sub_same (by rw [now_clock, until_])]
    rfl
  next => rfl

theorem check_cases (clocks : StuckClocks stuck) :
    (∃ checked, checkPositionStuckProtection threshold (.now reading) position stuck = .ok checked ∧
        StuckClocks checked ∧ checked.lastPositionTime.clock = .ros) ∨
      (checkPositionStuckProtection threshold (.now reading) position stuck =
          .error (.subtract (.now reading) stuck.lastPositionTime) ∧
        stuck.lastPositionTime.clock = .system ∧ positionChange position stuck ≤ threshold) := by
  unfold checkPositionStuckProtection
  rcases track_cases threshold reading position clocks with
    ⟨tracked, ran, kept, clock⟩ | ⟨failed, system, still⟩
  · obtain ⟨windowed, closed, kept, same⟩ := window_ok reading kept
    refine .inl ⟨windowed, ?_, kept, same ▸ clock⟩
    rw [ran]
    change (closeIgnoreWindow (.now reading) tracked >>= _) = _
    rw [closed]
    change (logStuck (.now reading) windowed >>= _) = _
    rw [log_ok reading kept]
    rfl
  · refine .inr ⟨?_, system, still⟩
    rw [failed]
    rfl

end Check

theorem follow_ok (config : Config α) (reading : Int) (position start goal : Position α) (currentYaw targetYaw : α)
    {cross : CrossTrack α} (clock : cross.lastCrossTime.clock = .ros) :
    ∃ after published, publishPositionSetpointTrajectory config (.now reading) position currentYaw start goal
      targetYaw cross = .ok (after, published) ∧ after.lastCrossTime.clock = .ros := by
  unfold publishPositionSetpointTrajectory
  dsimp only
  split
  · exact ⟨_, _, rfl, clock⟩
  · rw [sub_same (by rw [now_clock, clock])]
    exact ⟨_, _, rfl, rfl⟩

omit [Arithmetic α] in
theorem waypointAt_eq (config : Config α) {index : Nat} (inside : index < config.waypoints.length) :
    waypointAt config index = .ok config.waypoints[index] := by
  simp only [waypointAt, List.getElem?_eq_getElem inside]

theorem segmentStart_ok (config : Config α) {index : Nat} (inside : index < config.waypoints.length) :
    ∃ start, segmentStart config index = .ok start := by
  unfold segmentStart
  split
  · exact ⟨_, rfl⟩
  · rw [waypointAt_eq config (by omega)]
    exact ⟨_, rfl⟩

variable {config : Config α} {services : Services} {readings : Readings} {node : TaskController α}

theorem mission_fault (clocks : StuckClocks node.stuck) (cross : node.cross.lastCrossTime.clock = .ros)
    (unfinished : node.currentWaypointIndex < config.waypoints.length) {fault : Fault}
    (failed : executeWaypointMission config readings node = .error fault) :
    fault = .subtract (.now readings.stuck) node.stuck.lastPositionTime ∧
      node.stuck.lastPositionTime.clock = .system ∧
      positionChange node.localPosition.position node.stuck ≤ config.waypointThreshold := by
  unfold executeWaypointMission at failed
  rw [if_neg (Nat.not_le.mpr unfinished), waypointAt_eq config unfinished] at failed
  change (checkPositionStuckProtection config.waypointThreshold (.now readings.stuck)
    node.localPosition.position node.stuck >>= _) = _ at failed
  rcases check_cases config.waypointThreshold readings.stuck node.localPosition.position clocks with
    ⟨checked, ran, _⟩ | ⟨thrown, system, still⟩
  · obtain ⟨start, begun⟩ := segmentStart_ok config unfinished
    obtain ⟨after, published, followed, _⟩ := follow_ok config readings.cross node.localPosition.position start
      config.waypoints[node.currentWaypointIndex].toPosition node.currentYaw
      config.waypoints[node.currentWaypointIndex].yaw cross
    rw [ran] at failed
    change (segmentStart config node.currentWaypointIndex >>= _) = _ at failed
    rw [begun] at failed
    change (publishPositionSetpointTrajectory config (.now readings.cross) node.localPosition.position
      node.currentYaw start _ _ node.cross >>= _) = _ at failed
    rw [followed] at failed
    dsimp only [bind, Except.bind] at failed
    split at failed <;> cases failed
  · rw [thrown] at failed
    cases failed
    exact ⟨rfl, system, still⟩

/-- Where the times of a living node stand. -/
structure Timed (config : Config α) (node : TaskController α) : Prop where
  stuck : StuckClocks node.stuck
  cross : node.cross.lastCrossTime.clock = .ros
  grounded : number node.flightState ≤ 1 → node.stuck = .initial
  flying : node.flightState = .waypoint → node.currentWaypointIndex < config.waypoints.length →
    node.stuck.lastPositionTime.clock = .ros

theorem Checked.grounded {after : TaskController α} {sent : List (Output α)}
    (check : Checked config services node after sent) (low : number after.flightState ≤ 1) :
    number node.flightState ≤ 1 := by
  cases check with
  | emergency | idle | offboard | arm => exact low
  | depart inside state | climb inside state => rw [state]; decide
  | turn => simp [number] at low

theorem Steered.timed {current : Waypoint α} {start : Position α} {stuck : StuckDetection α} {cross : CrossTrack α}
    {published : Output α} (steered : Steered config readings node current start stuck cross published)
    (clocks : StuckClocks node.stuck) (clock : node.cross.lastCrossTime.clock = .ros) :
    StuckClocks stuck ∧ stuck.lastPositionTime.clock = .ros ∧ cross.lastCrossTime.clock = .ros := by
  obtain ⟨after, setpoint, followed, crossed⟩ := follow_ok config readings.cross node.localPosition.position start
    current.toPosition node.currentYaw current.yaw clock
  rw [steered.followed] at followed
  cases followed
  rcases check_cases config.waypointThreshold readings.stuck node.localPosition.position clocks with
    ⟨checked, ran, kept, reference⟩ | ⟨thrown, _⟩
  · rw [steered.guarded] at ran
    cases ran
    exact ⟨kept, reference, crossed⟩
  · rw [steered.guarded] at thrown
    cases thrown

theorem Flown.timed {outcome : Outcome α} (flight : Flown config services readings node outcome)
    (clocks : StuckClocks node.stuck) (clock : node.cross.lastCrossTime.clock = .ros)
    (grounded : number node.flightState ≤ 1 → node.stuck = .initial) (alive : outcome.fault = none) :
    Timed config outcome.node := by
  cases flight with
  | fault => cases alive
  | finished state done => exact ⟨clocks, clock, grounded, fun _ left => absurd left (Nat.not_lt.mpr done)⟩
  | steer state steered =>
    obtain ⟨kept, reference, crossed⟩ := steered.timed clocks clock
    exact ⟨kept, crossed, fun low => by simp [state, number] at low, fun _ _ => reference⟩
  | arrive state steered =>
    obtain ⟨_, _, crossed⟩ := steered.timed clocks clock
    exact ⟨.reset _ _, crossed, fun low => by simp [state, number] at low, fun _ _ => rfl⟩
  | touch => exact ⟨clocks, clock, fun low => by simp [number] at low, fun other => by cases other⟩
  | hold state | climb state | tilt state | descend state | disarm state | disarmed state | approach state =>
    exact ⟨clocks, clock, grounded, fun other => by rw [state] at other; cases other⟩

theorem timed {history : History α} {world : World α} (run : (offbNode config).Run history world) :
    world.fault = none → Timed config world.node := by
  apply run.invariant (fun world => world.fault = none → Timed config world.node)
  · exact fun _ => ⟨.initial, rfl, fun _ => rfl, fun other => by cases other⟩
  · intro before event after outputs taken held alive
    obtain ⟨alive', stepped⟩ := stepped_cases taken
    obtain ⟨clocks, clock, grounded, flying⟩ := held alive'
    cases stepped with
    | response request answer =>
      have frame := received_frame config before.node.toBaseController (.response request answer)
      simp only [received] at frame
      exact ⟨clocks, frame.2 ▸ clock, frame.1 ▸ grounded, frame.1 ▸ flying⟩
    | message _ quiet unasked =>
      have frame := received_frame config before.node.toBaseController event
      exact ⟨clocks, frame.2 ▸ clock, frame.1 ▸ grounded, frame.1 ▸ flying⟩
    | tick services readings ran ticked =>
      cases ticked with
      | warm => exact ⟨clocks, clock, grounded, flying⟩
      | flew ready check flight =>
        obtain ⟨_, _, stuck, cross, _⟩ := check.frame
        exact flight.timed (stuck ▸ clocks) (cross ▸ clock)
          (fun low => stuck ▸ grounded (check.grounded low)) alive

/-- A tick that evaluates `current_time - last_position_time_` on the default
value: it flies a waypoint, and the vehicle is still at the reference position. -/
structure ReadsUnset (config : Config α) (services : Services) (node : TaskController α) : Prop where
  ready : node.setpointReady = true
  flying : (checked config services node).flightState = .waypoint
  unfinished : node.currentWaypointIndex < config.waypoints.length
  still : positionChange node.localPosition.position node.stuck ≤ config.waypointThreshold
  unset : node.stuck.lastPositionTime = {}

theorem Timed.climbing (held : Timed config node) (reads : ReadsUnset config services node) :
    node.flightState = .takeoff ∧ Inside node.localPosition.position ∧
      |node.localPosition.position.z - config.takeoffHeight| ≤ config.waypointThreshold ∧ node.stuck = .initial := by
  have notFlying : node.flightState ≠ .waypoint := by
    intro flying
    have clock := held.flying flying reads.unfinished
    rw [reads.unset] at clock
    cases clock
  have check := checked_cases config services node
  have flying := reads.flying
  generalize checked config services node = after at check flying
  generalize (checkTaskSwitchConditions config services node).2.2 = sent at check
  cases check with
  | climb inside climbing level => exact ⟨climbing, inside, level, held.grounded (by rw [climbing]; decide)⟩
  | emergency | idle | offboard | arm => exact absurd flying notFlying
  | depart | turn => cases flying

theorem tick_fault {outcome : Outcome α} {fault : Fault} (held : Timed config node)
    (ticked : Ticked config services readings node outcome) (faulted : outcome.fault = some fault) :
    fault = .subtract (.now readings.stuck) {} ∧ ReadsUnset config services node := by
  cases ticked with
  | warm => cases faulted
  | @flew sent flown ready check flight =>
    obtain ⟨position, index, stuck, cross, _⟩ := check.frame
    obtain ⟨found, state, unfinished, failed, rfl⟩ : ∃ found, (checked config services node).flightState = .waypoint ∧
        (checked config services node).currentWaypointIndex < config.waypoints.length ∧
        executeWaypointMission config readings (checked config services node) = .error found ∧ found = fault := by
      cases flight with
      | fault found state unfinished failed => exact ⟨found, state, unfinished, failed, Option.some.inj faulted⟩
      | hold | climb | finished | steer | arrive | tilt | touch | descend | disarm | disarmed | approach => cases faulted
    obtain ⟨same, system, still⟩ := mission_fault (stuck ▸ held.stuck) (cross ▸ held.cross) unfinished failed
    rw [stuck] at same system still
    rw [position] at still
    -- only the ground has a reference time on the other clock, and there it is the default one
    have grounded : number node.flightState ≤ 1 := by
      generalize checked config services node = after at check state
      cases check with
      | climb inside climbing => rw [climbing]; decide
      | emergency | idle | offboard | arm => rw [held.flying state (index ▸ unfinished)] at system; cases system
      | depart | turn => cases state
    have unset : node.stuck.lastPositionTime = {} := by rw [held.grounded grounded]; rfl
    exact ⟨unset ▸ same, ready, state, index ▸ unfinished, still, unset⟩

theorem tick_safe {outcome : Outcome α} (held : Timed config node)
    (ticked : Ticked config services readings node outcome) (unread : ¬ ReadsUnset config services node) :
    outcome.fault = none := by
  by_contra faulted
  obtain ⟨fault, faulted⟩ := Option.ne_none_iff_exists'.mp faulted
  exact unread (tick_fault held ticked faulted).2

end FlightStack.Proofs
