import FlightStack.Proofs.Clocks
import FlightStack.Proofs.RequestFlags
import Mathlib.Tactic.NormNum

/-! Missions can be flown. A vehicle that is launched, climbs straight up and goes
to one waypoint after the other takes the node through every flight state, so
none of the states the safety theorems speak of is out of reach. -/

namespace FlightStack.Proofs
open BaseController TaskController OffbNode

section Reaching
variable {α : Type}

def level [Zero α] [One α] (position : Position α) : Pose α := ⟨position, ⟨0, 0, 0, 1⟩⟩

def served : Services := ⟨true, true⟩
def calm : Readings := ⟨0, 0, 0⟩

variable [Arithmetic α] {config : Config α} {state : FlightState} {world : World α}

/-- A living node on its way that has not asked to disarm. -/
structure Flying (config : Config α) (state : FlightState) (world : World α) : Prop where
  reachable : (offbNode config).Reachable world
  alive : world.fault = none
  ready : world.node.setpointReady = true
  state : world.node.flightState = state
  unasked : guarding .disarm world = ⟨false, 0⟩

theorem Flying.timed (flying : Flying config state world) : Timed config world.node := by
  obtain ⟨history, run⟩ := flying.reachable
  exact FlightStack.Proofs.timed run flying.alive

/-! The messages a flight needs -/

theorem step_launch (config : Config α) (alive : world.fault = none) :
    (offbNode config).step world (.launch true) =
      some (⟨{ world.node with launchFlag := true }, world.pending, none⟩, []) := by
  simp only [offbNode, OffbNode.step, alive, Option.isSome_none, Bool.false_eq_true, if_false]
  rfl

theorem step_state (config : Config α) (message : VehicleState) (alive : world.fault = none) :
    (offbNode config).step world (.vehicleState message) =
      some (⟨{ world.node with currentState := message }, world.pending, none⟩, []) := by
  simp only [offbNode, OffbNode.step, alive, Option.isSome_none, Bool.false_eq_true, if_false]
  rfl

theorem step_pose (config : Config α) (position : Position α) (alive : world.fault = none) :
    (offbNode config).step world (.localPosition (level position)) =
      some (⟨{ world.node with
        toBaseController := localPositionCallback config (level position) world.node.toBaseController },
        world.pending, none⟩, []) := by
  simp only [offbNode, OffbNode.step, alive, Option.isSome_none, Bool.false_eq_true, if_false]
  rfl

theorem Flying.move (flying : Flying config state world) (position : Position α) :
    ∃ moved, Flying config state moved ∧ moved.node.localPosition.position = position ∧
      moved.node.currentWaypointIndex = world.node.currentWaypointIndex ∧ moved.node.stuck = world.node.stuck := by
  have taken := step_pose config position flying.alive
  exact ⟨_, ⟨flying.reachable.step taken, rfl, flying.ready, flying.state, flying.unasked⟩, rfl, rfl, rfl⟩

theorem Flying.report (flying : Flying config state world) (message : VehicleState) :
    ∃ reported, Flying config state reported ∧ reported.node.currentState = message ∧
      reported.node.localPosition = world.node.localPosition := by
  have taken := step_state config message flying.alive
  exact ⟨_, ⟨flying.reachable.step taken, rfl, flying.ready, flying.state, flying.unasked⟩, rfl, rfl⟩

theorem Ticked.ready {services : Services} {readings : Readings} {node : TaskController α} {outcome : Outcome α}
    (ticked : Ticked config services readings node outcome) (ready : node.setpointReady = true) :
    outcome.node.setpointReady = true := by
  cases ticked with
  | warm cold => rw [ready] at cold; cases cold
  | flew _ check flight =>
    have kept := check.ready_eq.trans ready
    cases flight <;> exact kept

/-- A tick outside `land()` keeps a living node on its way. -/
theorem Flying.tick (flying : Flying config state world)
    (aloft : (checked config served world.node).flightState ≠ .land)
    (safe : (timerCallback config served calm world.node).fault = none) :
    ∃ after, (offbNode config).step world (.tick served calm) =
        some (after, (timerCallback config served calm world.node).outputs) ∧
      after.node = (timerCallback config served calm world.node).node ∧
      Flying config after.node.flightState after := by
  have taken := step_tick config served calm flying.alive
  have ticked := ticked_cases config served calm world.node
  refine ⟨_, taken, rfl, flying.reachable.step taken, safe, ticked.ready flying.ready, rfl, ?_⟩
  obtain ⟨move, moved⟩ := moved_disarm taken
  have silent : (requests (timerCallback config served calm world.node).outputs).count .disarm = 0 :=
    List.count_eq_zero.mpr fun sent => aloft (ticked.sends sent).2.1
  rw [moved.sends] at silent
  have idle : move = .idle := by
    cases move with
    | idle => rfl
    | send => cases silent
    | settle => obtain ⟨answer, same, _⟩ := moved.settles rfl; cases same
    | retain =>
      have step := moved.step
      rw [flying.unasked] at step
      cases step
    | drop =>
      obtain ⟨_, _, _, same, _, landing, _⟩ := moved.drops rfl
      cases same
      exact absurd landing aloft
  exact ((idle ▸ moved.step).idle_eq).trans flying.unasked

theorem Flying.ground (flying : Flying config state world) : ∃ grounded, Flying config state grounded ∧
    grounded.node.currentState.armed = true ∧ grounded.node.localPosition.position = ⟨0, 0, 0⟩ := by
  obtain ⟨below, flying, position, _⟩ := flying.move ⟨0, 0, 0⟩
  obtain ⟨grounded, flying, armed, same⟩ := flying.report ⟨"OFFBOARD", true⟩
  exact ⟨grounded, flying, by rw [armed], by rw [same]; exact position⟩

/-! The launch -/

def warmed (config : Config α) (count : Nat) : World α :=
  ⟨{ TaskController.initial config with offboardSetpointCounter := count, setpointReady := decide (50 < count) }, [], none⟩

theorem warm_up (config : Config α) {count : Nat} (bound : count ≤ 51) :
    (offbNode config).Reachable (warmed config count) := by
  induction count with
  | zero => exact .initial
  | succ count ih =>
    have cold : (warmed config count).node.setpointReady = false := decide_eq_false (by omega)
    have taken : (offbNode config).step (warmed config count) (.tick served calm) =
        some (warmed config (count + 1), [publishPositionSetpoint 0 0 0 0]) := by
      rw [step_tick config _ _ rfl, timerCallback, if_pos cold, cold]
      simp only [warmed, requests_position, requests_nil, List.append_nil]
      congr
    exact (ih (by omega)).step taken

def briefed (config : Config α) : World α :=
  ⟨{ (warmed config 51).node with launchFlag := true, currentState := ⟨"OFFBOARD", true⟩ }, [], none⟩

theorem briefing (config : Config α) : (offbNode config).Reachable (briefed config) :=
  ((warm_up config (Nat.le_refl 51)).step (step_launch config rfl)).step (step_state config ⟨"OFFBOARD", true⟩ rfl)

theorem inside_origin : Inside (⟨0, 0, 0⟩ : Position α) := by
  simp only [Inside, abs_zero]
  norm_num

theorem takes_off (config : Config α) : ∃ world, Flying config .takeoff world ∧
    world.node.currentWaypointIndex = 0 ∧ world.node.stuck = .initial := by
  have cleared : checkTaskSwitchConditions config served (briefed config).node =
      (true, { (briefed config).node with flightState := .takeoff }, []) := by
    have calmSky : checkEmergencyCondition (briefed config).node.localPosition.position = false :=
      emergency_eq _ inside_origin
    simp only [checkTaskSwitchConditions, calmSky]
    rfl
  have departed : timerCallback config served calm (briefed config).node =
      ⟨{ (briefed config).node with flightState := .takeoff },
        [taskStatePub { (briefed config).node.toBaseController with flightState := .takeoff },
          publishPositionSetpoint 0 0 config.takeoffHeight 0], none⟩ := by
    have ready : ¬ (briefed config).node.setpointReady = false := Bool.noConfusion
    rw [timerCallback, if_neg ready, cleared]
    rfl
  have taken := step_tick config served calm (rfl : (briefed config).fault = none)
  rw [departed] at taken
  exact ⟨_, ⟨(briefing config).step taken, rfl, rfl, rfl, rfl⟩, rfl, rfl⟩

/-! The flight -/

/-- The tick that ends the climb flies the first segment at once. Away from the
ground that is safe. -/
theorem Flying.climb (flying : Flying config .takeoff world) (inside : Inside world.node.localPosition.position)
    (level : |world.node.localPosition.position.z - config.takeoffHeight| ≤ config.waypointThreshold)
    (far : config.waypointThreshold < positionChange world.node.localPosition.position .initial) :
    ∃ after, Flying config .waypoint after := by
  have cleared := checked_climb config served world.node inside flying.state level
  have ticked := ticked_cases config served calm world.node
  have safe : (timerCallback config served calm world.node).fault = none := by
    apply tick_safe flying.timed ticked
    intro reads
    exact absurd ((flying.timed.climbing reads).2.2.2 ▸ reads.still) (not_le.mpr far)
  obtain ⟨after, _, same, arrived⟩ := flying.tick (by simp [cleared]) safe
  suffices after.node.flightState = .waypoint from ⟨after, this ▸ arrived⟩
  obtain ⟨sent, flown, _, flight, ran⟩ := tick_flies config served calm world.node flying.ready
  rw [same, ran]
  rw [cleared] at flight
  cases flight with
  | finished | fault | steer | arrive => rfl
  | hold state | climb state | tilt state | touch state | descend state | disarm state | disarmed state
  | approach state => cases state

theorem Flying.visit (flying : Flying config .waypoint world) (inside : Inside world.node.localPosition.position)
    {current : Waypoint α} (found : config.waypoints[world.node.currentWaypointIndex]? = some current)
    (near : isAtPoint config world.node.localPosition.position current.x current.y current.z = true) :
    ∃ after, Flying config .waypoint after ∧
      after.node.currentWaypointIndex = world.node.currentWaypointIndex + 1 := by
  have left := (List.getElem?_eq_some_iff.mp found).1
  have cleared : checked config served world.node = world.node := by
    simp only [checked, checkTaskSwitchConditions, emergency_eq _ inside, Bool.false_eq_true, if_false, flying.state,
      Nat.not_le.mpr left]
  have ticked := ticked_cases config served calm world.node
  have safe : (timerCallback config served calm world.node).fault = none := by
    apply tick_safe flying.timed ticked
    intro reads
    cases flying.state.symm.trans (flying.timed.climbing reads).1
  obtain ⟨after, _, same, arrived⟩ := flying.tick (by simp [cleared, flying.state]) safe
  suffices after.node.flightState = .waypoint ∧
      after.node.currentWaypointIndex = world.node.currentWaypointIndex + 1 from ⟨after, this.1 ▸ arrived, this.2⟩
  obtain ⟨sent, flown, _, flight, ran⟩ := tick_flies config served calm world.node flying.ready
  rw [ran] at safe
  rw [same, ran]
  rw [cleared] at flight
  cases flight with
  | arrive => exact ⟨flying.state, rfl⟩
  | finished _ done => exact absurd left (Nat.not_lt.mpr done)
  | fault => cases safe
  | steer _ steered away =>
    cases steered.found.symm.trans found
    rw [near] at away
    cases away
  | hold state | climb state | tilt state | touch state | descend state | disarm state | disarmed state
  | approach state => rw [flying.state] at state; cases state

/-- Above the landing point, the tick that turns to it lands at once when the
vehicle is already down. -/
theorem Flying.touch (flying : Flying config .waypoint world) (inside : Inside world.node.localPosition.position)
    (finished : config.waypoints.length ≤ world.node.currentWaypointIndex)
    (low : world.node.localPosition.position.z < 0.08) : ∃ after, Flying config .land after := by
  have cleared := checked_turn config served world.node inside flying.state finished
  have landed : (timerCallback config served calm world.node).node.flightState = .land ∧
      (timerCallback config served calm world.node).fault = none := by
    obtain ⟨sent, flown, _, flight, ran⟩ := tick_flies config served calm world.node flying.ready
    rw [ran]
    rw [cleared] at flight
    cases flight with
    | touch => exact ⟨rfl, rfl⟩
    | tilt _ high => exact absurd low (not_lt.mpr high)
    | hold state | climb state | finished state | fault _ state | steer state | arrive state | descend state
    | disarm state | disarmed state | approach state => cases state
  obtain ⟨after, _, same, arrived⟩ := flying.tick (by simp [cleared]) landed.2
  exact ⟨after, landed.1 ▸ same ▸ arrived⟩

/-! The landing, wherever the vehicle is -/

theorem checked_land {services : Services} {node : TaskController α} (state : node.flightState = .land) :
    checked config services node = node := by
  have check := checked_cases config services node
  generalize checked config services node = after at check ⊢
  generalize (checkTaskSwitchConditions config services node).2.2 = sent at check
  cases check with
  | emergency | idle => rfl
  | offboard _ other | arm _ other | depart _ other | climb _ other | turn _ other => rw [state] at other; cases other

theorem checked_lands {services : Services} {node : TaskController α} (state : node.flightState = .land) :
    (checked config services node).flightState = .land := by
  rw [checked_land state]
  exact state

/-- What `land()` does: it always publishes, it takes the flag of a disarmed vehicle
down, and it disarms an armed one on the ground unless that was asked for before. -/
theorem Flown.landing {services : Services} {readings : Readings} {node : TaskController α} {outcome : Outcome α}
    (flight : Flown config services readings node outcome) (state : node.flightState = .land) :
    ∃ velocity raised sent, outcome = ⟨{ node with applyDisarmFlag := raised },
        publishVelocityBody config 0 0 velocity 0 :: sent, none⟩ ∧
      (node.currentState.armed = false → raised = false) ∧
      (node.currentState.armed = true → node.localPosition.position.z < 0.03 → services.arming = true →
        node.applyDisarmFlag = false → .request .disarm ∈ sent) := by
  cases flight with
  | descend _ armed kept =>
    refine ⟨_, _, [], rfl, ?_, ?_⟩
    · exact fun disarmed => nomatch armed.symm.trans disarmed
    · exact fun _ low service down => nomatch (kept low service).symm.trans down
  | disarm _ armed =>
    refine ⟨_, _, [.request .disarm], rfl, ?_, fun _ _ _ _ => List.mem_cons_self⟩
    exact fun disarmed => nomatch armed.symm.trans disarmed
  | disarmed _ disarmed =>
    refine ⟨_, _, [], rfl, fun _ => rfl, ?_⟩
    exact fun armed => nomatch disarmed.symm.trans armed
  | hold other | climb other | finished other | fault _ other | steer other | arrive other | tilt other
  | touch other | approach other => rw [state] at other; cases other

theorem disarm_sent (config : Config α) (services : Services) (readings : Readings) {node : TaskController α}
    (ready : node.setpointReady = true) (state : node.flightState = .land) (armed : node.currentState.armed = true)
    (low : node.localPosition.position.z < 0.03) (service : services.arming = true)
    (down : node.applyDisarmFlag = false) :
    .request .disarm ∈ (timerCallback config services readings node).outputs := by
  obtain ⟨sent, flown, _, flight, ran⟩ := tick_flies config services readings node ready
  rw [checked_land state] at flight ran
  obtain ⟨velocity, raised, requested, rfl, _, asks⟩ := flight.landing state
  rw [ran]
  have asked := asks armed low service down
  simp [asked]

theorem Flying.disarms (flying : Flying config .land world) (armed : world.node.currentState.armed = true)
    (low : world.node.localPosition.position.z < 0.03) :
    .request .disarm ∈ (timerCallback config served calm world.node).outputs :=
  disarm_sent config served calm flying.ready flying.state armed low rfl (congrArg RequestGuard.raised flying.unasked)

end Reaching

/-! The real numbers -/

/-- A mission a vehicle can fly: the take-off height and all waypoints are inside
the fence, and the threshold neither excludes arriving nor reaches the ground. -/
structure Flyable (config : Config ℝ) : Prop where
  threshold : 0 < config.waypointThreshold
  clear : config.waypointThreshold < config.takeoffHeight
  height : config.takeoffHeight < 2.5
  fenced : ∀ waypoint ∈ config.waypoints, Inside waypoint.toPosition

/-- The node with its default parameters, in a frame that is never turned. -/
noncomputable def stock : Config ℝ := constructDefault 0 fun _ => (0, 0, 0)

theorem construct_flyable (angular : ℝ) {height threshold : ℝ} (start : Int) (getRPY : Quaternion ℝ → ℝ × ℝ × ℝ)
    (reach : 0 < threshold) (clear : threshold < height) (low : height < 2.5) :
    Flyable (construct angular height threshold start getRPY) := by
  refine ⟨reach, clear, low, ?_⟩
  have inside (x y : ℝ) (near : |x| ≤ 2) (far : |y| ≤ 2) : Inside (⟨x, y, height⟩ : Position ℝ) :=
    ⟨by linarith, by linarith, by rw [abs_of_pos (reach.trans clear)]; exact low⟩
  intro waypoint member
  simp only [construct, waypointGenerate, List.mem_cons, List.not_mem_nil, or_false] at member
  rcases member with rfl | rfl | rfl <;> exact inside _ _ (by norm_num) (by norm_num)

theorem stock_flyable : Flyable stock :=
  construct_flyable 0.5 0 _ (by norm_num) (by norm_num) (by norm_num)

variable {config : Config ℝ}

theorem outside_fence (y z : ℝ) : ¬ Inside (⟨8, y, z⟩ : Position ℝ) := by
  intro inside
  have near := inside.1
  norm_num at near

theorem height_le_change (position : Position ℝ) : |position.z| ≤ positionChange position .initial := by
  apply Real.abs_le_sqrt
  simp only [StuckDetection.initial, sub_zero]
  nlinarith [sq_nonneg position.x, sq_nonneg position.y]

theorem Flyable.climbed (flyable : Flyable config) : ∃ world, Flying config .waypoint world := by
  obtain ⟨start, flying, _, _⟩ := takes_off config
  obtain ⟨world, flying, above, _⟩ := flying.move ⟨0, 0, config.takeoffHeight⟩
  have positive : 0 < config.takeoffHeight := flyable.threshold.trans flyable.clear
  apply flying.climb
  · rw [above]
    refine ⟨by norm_num, by norm_num, ?_⟩
    rw [abs_of_pos positive]
    exact flyable.height
  · rw [above, sub_self, abs_zero]
    exact flyable.threshold.le
  · rw [above]
    exact (flyable.clear.trans_le (le_abs_self _)).trans_le (height_le_change ⟨0, 0, config.takeoffHeight⟩)

theorem Flyable.visited (flyable : Flyable config) : ∃ world, Flying config .waypoint world ∧
    world.node.currentWaypointIndex = config.waypoints.length := by
  obtain ⟨world, flying⟩ := flyable.climbed
  have bounded {world : World ℝ} (flying : Flying config .waypoint world) :
      world.node.currentWaypointIndex ≤ config.waypoints.length := by
    obtain ⟨history, run⟩ := flying.reachable
    exact (stage_sound run).bounded
  -- induction on the waypoints still to be visited
  obtain ⟨left, count⟩ := Nat.exists_eq_add_of_le (bounded flying)
  induction left generalizing world with
  | zero => exact ⟨world, flying, count.symm⟩
  | succ left ih =>
    have more : world.node.currentWaypointIndex < config.waypoints.length := by omega
    obtain ⟨there, flying, position, index, _⟩ :=
      flying.move config.waypoints[world.node.currentWaypointIndex].toPosition
    have found : config.waypoints[there.node.currentWaypointIndex]? =
        some config.waypoints[world.node.currentWaypointIndex] := by
      rw [index]
      exact List.getElem?_eq_getElem more
    obtain ⟨after, flying, next⟩ := flying.visit (position ▸ flyable.fenced _ (List.getElem_mem more)) found (by
      rw [position]
      simp only [isAtPoint, distanceToTarget, sub_self, mul_zero, add_zero, decide_eq_true_eq]
      exact Real.sqrt_zero.trans_lt flyable.threshold)
    exact ih after flying (by omega)

theorem Flyable.lands (flyable : Flyable config) : ∃ world, Flying config .land world := by
  obtain ⟨world, flying, count⟩ := flyable.visited
  obtain ⟨down, flying, position, index, _⟩ := flying.move ⟨0, 0, 0⟩
  exact flying.touch (position ▸ inside_origin) (by omega) (by rw [position]; norm_num)

end FlightStack.Proofs
