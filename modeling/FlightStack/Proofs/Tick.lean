import FlightStack.OffbNode
import Mathlib.Tactic.Linarith

/-! What one callback can do, once and for all. Later proofs split on these
cases and never unfold the tick again. -/

namespace FlightStack.Proofs
open BaseController TaskController
variable {α : Type} [Arithmetic α]

/-- The fence of `check_emergency_condition`, from the inside. -/
def Inside (position : Position α) : Prop := |position.x| < 7 ∧ |position.y| < 7 ∧ |position.z| < 2.5

theorem emergency_iff (position : Position α) : checkEmergencyCondition position = true ↔ ¬ Inside position := by
  simp only [checkEmergencyCondition, Inside, Bool.or_eq_true, decide_eq_true_eq, not_and_or, not_lt, or_assoc]

theorem emergency_eq (position : Position α) (inside : Inside position) :
    checkEmergencyCondition position = false := by
  rw [← Bool.not_eq_true, emergency_iff]
  exact not_not.mpr inside

/-- The node the tick flies, after `check_task_switch_conditions`. -/
def checked (config : Config α) (services : Services) (node : TaskController α) : TaskController α :=
  (checkTaskSwitchConditions config services node).2.1

section Check
variable (config : Config α) (services : Services) (node : TaskController α)

/-- The outcomes of `check_task_switch_conditions`, each with what it tested. -/
inductive Checked : TaskController α → List (Output α) → Prop where
  | emergency (outside : ¬ Inside node.localPosition.position) : Checked node (autoLand services)
  | idle (inside : Inside node.localPosition.position)
      (low : node.flightState = .takeoff →
        config.waypointThreshold < |node.localPosition.position.z - config.takeoffHeight|)
      (unfinished : node.flightState = .waypoint → node.currentWaypointIndex < config.waypoints.length) :
      Checked node []
  | offboard (inside : Inside node.localPosition.position) (state : node.flightState = .init)
      (launched : node.launchFlag = true) (mode : node.currentState.mode ≠ "OFFBOARD")
      (down : node.applyOffboardFlag = false) (service : services.setMode = true) :
      Checked { node with applyOffboardFlag := true } [.request .offboard]
  | arm (inside : Inside node.localPosition.position) (state : node.flightState = .init)
      (launched : node.launchFlag = true) (mode : node.currentState.mode = "OFFBOARD")
      (disarmed : node.currentState.armed = false)
      (down : node.applyArmFlag = false) (service : services.arming = true) :
      Checked { node with applyArmFlag := true } [.request .arm]
  | depart (inside : Inside node.localPosition.position) (state : node.flightState = .init)
      (launched : node.launchFlag = true) (mode : node.currentState.mode = "OFFBOARD")
      (armed : node.currentState.armed = true) :
      Checked { node with flightState := .takeoff } []
  | climb (inside : Inside node.localPosition.position) (state : node.flightState = .takeoff)
      (level : |node.localPosition.position.z - config.takeoffHeight| ≤ config.waypointThreshold) :
      Checked { node with flightState := .waypoint } []
  | turn (inside : Inside node.localPosition.position) (state : node.flightState = .waypoint)
      (finished : config.waypoints.length ≤ node.currentWaypointIndex) :
      Checked { node with flightState := .tiltland } []

private theorem checked_init (inside : Inside node.localPosition.position) (state : node.flightState = .init) :
    Checked config services node (checked config services node)
      (checkTaskSwitchConditions config services node).2.2 := by
  have idle : Checked config services node node [] := .idle inside (by simp [state]) (by simp [state])
  simp only [checked, checkTaskSwitchConditions, emergency_eq _ inside, Bool.false_eq_true, if_false, state]
  split
  · exact idle
  next launched =>
    have launched : node.launchFlag = true := by simpa using launched
    split
    next mode =>
      split
      · exact idle
      next down =>
        simp only [engageOffboardMode]
        split
        next service => exact .offboard inside state launched mode (by simpa using down) service
        next => exact idle
    next mode =>
      have mode : node.currentState.mode = "OFFBOARD" := not_not.mp mode
      split
      next disarmed =>
        split
        · exact idle
        next down =>
          simp only [BaseController.arm]
          split
          next service => exact .arm inside state launched mode disarmed (by simpa using down) service
          next => exact idle
      next armed =>
        simp only [switchTask, state, reduceCtorEq, if_false]
        exact .depart inside state launched mode (by simpa using armed)

theorem checked_cases : Checked config services node (checked config services node)
    (checkTaskSwitchConditions config services node).2.2 := by
  by_cases inside : Inside node.localPosition.position
  · cases state : node.flightState with
    | init => exact checked_init config services node inside state
    | takeoff =>
      simp only [checked, checkTaskSwitchConditions, emergency_eq _ inside, Bool.false_eq_true, if_false, state]
      split
      next level =>
        simp only [switchTask, state, reduceCtorEq, if_false]
        exact .climb inside state level
      next low => exact .idle inside (fun _ => not_le.mp low) (by simp [state])
    | waypoint =>
      simp only [checked, checkTaskSwitchConditions, emergency_eq _ inside, Bool.false_eq_true, if_false, state]
      split
      next finished =>
        simp only [switchTask, state, reduceCtorEq, if_false]
        exact .turn inside state finished
      next unfinished => exact .idle inside (by simp [state]) (fun _ => not_le.mp unfinished)
    | approach | tiltland | land =>
      simp only [checked, checkTaskSwitchConditions, emergency_eq _ inside, Bool.false_eq_true, if_false, state]
      exact .idle inside (by simp [state]) (by simp [state])
  · simp only [checked, checkTaskSwitchConditions, (emergency_iff _).mpr inside, if_true]
    exact .emergency inside

theorem Checked.frame {config : Config α} {services : Services} {node after : TaskController α}
    {sent : List (Output α)} (check : Checked config services node after sent) :
    after.localPosition = node.localPosition ∧ after.currentWaypointIndex = node.currentWaypointIndex ∧
      after.stuck = node.stuck ∧ after.cross = node.cross ∧ after.tilt = node.tilt ∧
      after.setpointReady = node.setpointReady ∧ after.currentYaw = node.currentYaw := by
  cases check <;> exact ⟨rfl, rfl, rfl, rfl, rfl, rfl, rfl⟩

theorem Checked.armed_eq {config : Config α} {services : Services} {node after : TaskController α}
    {sent : List (Output α)} (check : Checked config services node after sent) :
    after.currentState = node.currentState := by
  cases check <;> rfl

theorem Checked.ready_eq {config : Config α} {services : Services} {node after : TaskController α}
    {sent : List (Output α)} (check : Checked config services node after sent) :
    after.setpointReady = node.setpointReady := by
  cases check <;> rfl

theorem checked_outside (outside : ¬ Inside node.localPosition.position) : checked config services node = node := by
  simp only [checked, checkTaskSwitchConditions, (emergency_iff _).mpr outside, if_true]

theorem checked_climb (inside : Inside node.localPosition.position) (state : node.flightState = .takeoff)
    (level : |node.localPosition.position.z - config.takeoffHeight| ≤ config.waypointThreshold) :
    checked config services node = { node with flightState := .waypoint } := by
  simp only [checked, checkTaskSwitchConditions, emergency_eq _ inside, Bool.false_eq_true, if_false, state, level,
    if_true, switchTask, reduceCtorEq]

theorem checked_turn (inside : Inside node.localPosition.position) (state : node.flightState = .waypoint)
    (finished : config.waypoints.length ≤ node.currentWaypointIndex) :
    checked config services node = { node with flightState := .tiltland } := by
  simp only [checked, checkTaskSwitchConditions, emergency_eq _ inside, Bool.false_eq_true, if_false, state, finished,
    if_true, switchTask, reduceCtorEq]

end Check

section Fly
variable (config : Config α) (services : Services) (readings : Readings) (node : TaskController α)

/-- A pass through `execute_waypoint_mission` that published its setpoint: the
segment it steered along, and what the stuck check left behind. -/
structure Steered (current : Waypoint α) (start : Position α) (stuck : StuckDetection α)
    (cross : CrossTrack α) (published : Output α) : Prop where
  found : config.waypoints[node.currentWaypointIndex]? = some current
  begun : segmentStart config node.currentWaypointIndex = .ok start
  guarded : checkPositionStuckProtection config.waypointThreshold (.now readings.stuck)
    node.localPosition.position node.stuck = .ok stuck
  followed : publishPositionSetpointTrajectory config (.now readings.cross) node.localPosition.position
    node.currentYaw start current.toPosition current.yaw node.cross = .ok (cross, published)

/-- The outcomes of the `switch (flight_state_)` of the tick. -/
inductive Flown : Outcome α → Prop where
  | hold (state : node.flightState = .init) :
      Flown ⟨node, [publishPositionSetpoint node.localPosition.position.x node.localPosition.position.y
        node.localPosition.position.z 0], none⟩
  | climb (state : node.flightState = .takeoff) :
      Flown ⟨node, [publishPositionSetpoint 0 0 config.takeoffHeight 0], none⟩
  | finished (state : node.flightState = .waypoint)
      (done : config.waypoints.length ≤ node.currentWaypointIndex) : Flown ⟨node, [], none⟩
  | fault (fault : Fault) (state : node.flightState = .waypoint)
      (unfinished : node.currentWaypointIndex < config.waypoints.length)
      (failed : executeWaypointMission config readings node = .error fault) : Flown ⟨node, [], some fault⟩
  | steer {current : Waypoint α} {start : Position α} {stuck : StuckDetection α} {cross : CrossTrack α}
      {published : Output α} (state : node.flightState = .waypoint)
      (steered : Steered config readings node current start stuck cross published)
      (away : isAtPoint config node.localPosition.position current.x current.y current.z = false) :
      Flown ⟨{ node with cross, stuck }, [published], none⟩
  | arrive {current : Waypoint α} {start : Position α} {stuck : StuckDetection α} {cross : CrossTrack α}
      {published : Output α} (state : node.flightState = .waypoint)
      (steered : Steered config readings node current start stuck cross published)
      (near : isAtPoint config node.localPosition.position current.x current.y current.z = true) :
      Flown ⟨{ node with
        cross, stuck := resetPositionStuckDetection (.now readings.reset) node.localPosition.position stuck,
        currentWaypointIndex := node.currentWaypointIndex + 1 }, [published], none⟩
  | tilt (state : node.flightState = .tiltland) (high : 0.08 ≤ node.localPosition.position.z) :
      Flown ⟨{ node with tilt := (tiltLand config node.localPosition.position node.currentYaw node.tilt).2.1 },
        (tiltLand config node.localPosition.position node.currentYaw node.tilt).2.2, none⟩
  | touch (state : node.flightState = .tiltland) (low : node.localPosition.position.z < 0.08) :
      Flown ⟨{ node with flightState := .land, tilt := {} }, [], none⟩
  | descend (state : node.flightState = .land) (armed : node.currentState.armed = true)
      (kept : node.localPosition.position.z < 0.03 → services.arming = true → node.applyDisarmFlag = true) :
      Flown ⟨node, [publishVelocityBody config 0 0 (-0.3) 0], none⟩
  | disarm (state : node.flightState = .land) (armed : node.currentState.armed = true)
      (low : node.localPosition.position.z < 0.03) (service : services.arming = true)
      (down : node.applyDisarmFlag = false) :
      Flown ⟨{ node with applyDisarmFlag := true },
        [publishVelocityBody config 0 0 (-0.3) 0, .request .disarm], none⟩
  | disarmed (state : node.flightState = .land) (disarmed : node.currentState.armed = false) :
      Flown ⟨{ node with applyDisarmFlag := false }, [publishVelocityBody config 0 0 0 0], none⟩
  | approach (state : node.flightState = .approach) : Flown ⟨node, [], none⟩

private theorem bind_ok {β γ : Type} {value : Except Fault β} {next : β → Except Fault γ} {result : γ}
    (run : (value >>= next) = .ok result) : ∃ produced, value = .ok produced ∧ next produced = .ok result := by
  cases value with
  | error fault => cases run
  | ok produced => exact ⟨produced, rfl, run⟩

omit [Arithmetic α] in
theorem waypointAt_ok {index : Nat} {waypoint : Waypoint α} (found : waypointAt config index = .ok waypoint) :
    config.waypoints[index]? = some waypoint := by
  unfold waypointAt at found
  split at found
  next held => rw [held, Except.ok.inj found]
  next => cases found

private theorem mission_cases {flown : TaskController α} {published : List (Output α)}
    (state : node.flightState = .waypoint)
    (executed : executeWaypointMission config readings node = .ok (flown, published)) :
    Flown config services readings node ⟨flown, published, none⟩ := by
  unfold executeWaypointMission at executed
  split at executed
  next done =>
    cases executed
    exact .finished state done
  next =>
    obtain ⟨current, found, executed⟩ := bind_ok executed
    obtain ⟨stuck, checked, executed⟩ := bind_ok executed
    obtain ⟨start, begun, executed⟩ := bind_ok executed
    obtain ⟨⟨cross, setpoint⟩, steered, executed⟩ := bind_ok executed
    have steered : Steered config readings node current start stuck cross setpoint :=
      ⟨waypointAt_ok config found, begun, checked, steered⟩
    dsimp only at executed
    split at executed
    next near =>
      cases executed
      exact .arrive state steered near
    next away =>
      cases executed
      exact .steer state steered (by simpa using away)

private theorem land_cases (state : node.flightState = .land) :
    Flown config services readings node
      ⟨{ node with toBaseController := (land config services node.toBaseController).1 },
        (land config services node.toBaseController).2, none⟩ := by
  unfold land
  split
  next armed =>
    have stay (kept : node.localPosition.position.z < 0.03 → services.arming = true →
        node.applyDisarmFlag = true) : Flown config services readings node
          ⟨node, [publishVelocityBody config 0 0 (-0.3) 0], none⟩ := .descend state armed kept
    dsimp only
    split
    next low =>
      split
      next service =>
        split
        next up => exact stay fun _ _ => up
        next down => exact .disarm state armed low service (by simpa using down)
      next noService => exact stay fun _ service => absurd service noService
    next high => exact stay fun low _ => absurd low high
  next disarmed => exact .disarmed state (by simpa using disarmed)

theorem flown_cases : Flown config services readings node (flyState config services readings node) := by
  cases state : node.flightState with
  | init => simp only [flyState, state]; exact .hold state
  | takeoff => simp only [flyState, state]; exact .climb state
  | waypoint =>
    simp only [flyState, state]
    split
    next flown published executed => exact mission_cases config services readings node state executed
    next fault failed =>
      refine .fault fault state ?_ failed
      by_contra finished
      rw [executeWaypointMission, if_pos (not_lt.mp finished)] at failed
      cases failed
  | approach => simp only [flyState, state]; exact .approach state
  | tiltland =>
    simp only [flyState, state]
    by_cases low : node.localPosition.position.z < 0.08
    · simp only [tiltLand, low, if_true, switchTask, state, reduceCtorEq, if_false]
      exact .touch state low
    · have unfinished : (tiltLand config node.localPosition.position node.currentYaw node.tilt).1 = false := by
        simp only [tiltLand, low, if_false]
        split <;> rfl
      rw [unfinished]
      exact .tilt state (not_lt.mp low)
  | land => simp only [flyState, state]; exact land_cases config services readings node state

/-- The outcomes of one tick: a setpoint of the warm-up, or a check and a flight. -/
inductive Ticked : Outcome α → Prop where
  | warm (cold : node.setpointReady = false) :
      Ticked ⟨{ node with
          offboardSetpointCounter := node.offboardSetpointCounter + 1,
          setpointReady := if 50 < node.offboardSetpointCounter + 1 then true else node.setpointReady },
        [publishPositionSetpoint 0 0 0 0], none⟩
  | flew {sent : List (Output α)} {flown : Outcome α} (ready : node.setpointReady = true)
      (check : Checked config services node (checked config services node) sent)
      (flight : Flown config services readings (checked config services node) flown) :
      Ticked { flown with
        outputs := sent ++ taskStatePub (checked config services node).toBaseController :: flown.outputs }

theorem ticked_cases : Ticked config services readings node (timerCallback config services readings node) := by
  unfold timerCallback
  split
  next cold => exact .warm cold
  next ready =>
    exact .flew (by simpa using ready) (checked_cases config services node) (flown_cases config services readings _)

theorem tick_flies (ready : node.setpointReady = true) :
    ∃ sent flown, Checked config services node (checked config services node) sent ∧
      Flown config services readings (checked config services node) flown ∧
      timerCallback config services readings node = { flown with
        outputs := sent ++ taskStatePub (checked config services node).toBaseController :: flown.outputs } := by
  refine ⟨_, _, checked_cases config services node, flown_cases config services readings _, ?_⟩
  rw [timerCallback, if_neg (by simp [ready])]
  rfl

end Fly
end FlightStack.Proofs
