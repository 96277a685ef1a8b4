import FlightStack.Proofs.NominalFlight

/-! Ticks outside the fence. The check asks the autopilot to land, but the tick
flies its state all the same, so the mission only rests where the state has
nothing to do at that moment. -/

namespace FlightStack.Proofs
open BaseController TaskController OffbNode

section Preemption
variable {α : Type} [Arithmetic α] {config : Config α} {services : Services} {readings : Readings}
  {node : TaskController α}

/-- The tick hands control to the autopilot and leaves the mission alone. -/
structure Preempted (services : Services) (before after : TaskController α) (outputs : List (Output α)) : Prop where
  landing : services.setMode = true → .request .autoLand ∈ outputs
  silent : ∀ request, .request request ∈ outputs → request = .autoLand
  state : after.flightState = before.flightState
  index : after.currentWaypointIndex = before.currentWaypointIndex
  tilt : after.tilt = before.tilt
  disarm : after.applyDisarmFlag = before.applyDisarmFlag

/-- The flight state has nothing to do: no waypoint is reached, the tilt landing
neither changes its stage nor touches down, and `land()` neither disarms nor
takes the vehicle to be disarmed. -/
def AtRest (config : Config α) (services : Services) (node : TaskController α) : Prop :=
  let position := node.localPosition.position
  match node.flightState with
  | .init | .takeoff | .approach => True
  | .waypoint => ∀ current, config.waypoints[node.currentWaypointIndex]? = some current →
      isAtPoint config position current.x current.y current.z = false
  | .tiltland => 0.08 ≤ position.z ∧ (node.tilt.stage1Completed = true ∨
      node.tilt.stage1Started = true ∧ 0.05 < |sqrt ((position.x - 0) ^ 2 + (position.y - 0) ^ 2) - position.z|)
  | .land =>
    if node.currentState.armed then
      position.z < 0.03 → services.arming = true → node.applyDisarmFlag = true
    else node.applyDisarmFlag = false

theorem tiltLand_stage (config : Config α) (position : Position α) (currentYaw : α) (tilt : TiltStage)
    (high : 0.08 ≤ position.z) : (tiltLand config position currentYaw tilt).2.1 = tilt ↔
      tilt.stage1Completed = true ∨
        tilt.stage1Started = true ∧ 0.05 < |sqrt ((position.x - 0) ^ 2 + (position.y - 0) ^ 2) - position.z| := by
  obtain ⟨completed, started⟩ := tilt
  simp only [tiltLand, not_lt.mpr high, if_false]
  split
  next first =>
    cases completed <;> cases started <;> simp_all
  next second =>
    cases completed <;> cases started <;> simp_all

/-- Outside the fence the check only asks for AUTO.LAND, and the flight goes on. -/
private theorem outside_tick (ready : node.setpointReady = true) (outside : ¬ Inside node.localPosition.position) :
    ∃ flown, Flown config services readings node flown ∧
      timerCallback config services readings node = { flown with
        outputs := autoLand services ++ taskStatePub node.toBaseController :: flown.outputs } := by
  have alarm : checkTaskSwitchConditions config services node = (true, node, autoLand services) :=
    if_pos ((emergency_iff _).mpr outside)
  refine ⟨_, flown_cases config services readings node, ?_⟩
  rw [timerCallback, if_neg (by simp [ready]), alarm]

private theorem preempted_iff {flown : Outcome α} (flight : Flown config services readings node flown) :
    Preempted services node flown.node
        (autoLand services ++ taskStatePub node.toBaseController :: flown.outputs) ↔
      requests flown.outputs = [] ∧ flown.node.flightState = node.flightState ∧
        flown.node.currentWaypointIndex = node.currentWaypointIndex ∧ flown.node.tilt = node.tilt ∧
        flown.node.applyDisarmFlag = node.applyDisarmFlag := by
  constructor
  · intro ⟨_, silent, state, index, tilt, disarm⟩
    refine ⟨List.eq_nil_iff_forall_not_mem.mpr fun request sent => ?_, state, index, tilt, disarm⟩
    obtain ⟨rfl, _⟩ := flight.sends sent
    have sent := mem_requests.mp sent
    exact absurd (silent .disarm (by simp [sent])) (by decide)
  · intro ⟨silent, state, index, tilt, disarm⟩
    refine ⟨fun service => by simp [autoLand, service], fun request sent => ?_, state, index, tilt, disarm⟩
    have sent := mem_requests.mpr sent
    simp only [requests_append, requests_info, silent, List.append_nil] at sent
    exact mem_requests_autoLand sent

private theorem rests_iff (held : Timed config node) (ready : node.setpointReady = true)
    (outside : ¬ Inside node.localPosition.position) :
    Preempted services node (timerCallback config services readings node).node
      (timerCallback config services readings node).outputs ↔ AtRest config services node := by
  obtain ⟨flown, flight, ran⟩ : ∃ flown, Flown config services readings node flown ∧ _ := outside_tick ready outside
  have ticked := ticked_cases config services readings node
  rw [ran] at ticked ⊢
  have safe := tick_safe held ticked fun reads => outside (held.climbing reads).2.1
  apply (preempted_iff flight).trans
  cases flight with
  | hold state | climb state | approach state => simp [AtRest, state]
  | finished state done => simp [AtRest, state, List.getElem?_eq_none done]
  | fault => cases safe
  | steer state steered away =>
    simp [AtRest, state, steered.found, away, requests_setpoint (followed_isSetpoint steered.followed)]
  | arrive state steered near => simp [AtRest, state, steered.found, near]
  | tilt state high =>
    simp only [AtRest, state, requests_tiltLand _ _ _ _ high, true_and, and_true, high]
    exact tiltLand_stage config node.localPosition.position node.currentYaw node.tilt high
  | touch state low => simp [AtRest, state, not_le.mpr low]
  | descend state armed kept => simpa [AtRest, state, armed] using kept
  | disarm state armed low service down => simp [AtRest, state, armed, low, service, down]
  | disarmed state disarmed =>
    simp only [AtRest, state, disarmed, requests_velocity, requests_nil, true_and, Bool.false_eq_true, if_false]
    exact eq_comm

theorem emergency_preempts (config : Config α) {history : History α} {world after : World α} {services : Services}
    {readings : Readings} {outputs : List (Output α)} (run : (offbNode config).Run history world)
    (taken : (offbNode config).step world (.tick services readings) = some (after, outputs))
    (ready : world.node.setpointReady = true) (outside : ¬ Inside world.node.localPosition.position) :
    Preempted services world.node after.node outputs ↔ AtRest config services world.node := by
  have alive := (stepped_cases taken).1
  rw [step_tick config services readings alive] at taken
  cases taken
  exact rests_iff (timed run alive) ready outside

end Preemption

/-- Once the stock mission has visited its last waypoint, leaving the fence stops it. -/
theorem emergency_preempts_stock : ∃ history world after outputs, (offbNode stock).Run history world ∧
    world.node.flightState = .waypoint ∧ ¬ Inside world.node.localPosition.position ∧
    (offbNode stock).step world (.tick ⟨true, true⟩ ⟨0, 0, 0⟩) = some (after, outputs) ∧
    Preempted ⟨true, true⟩ world.node after.node outputs := by
  obtain ⟨visited, flying, count⟩ := stock_flyable.visited
  obtain ⟨world, flying, position, index, _⟩ := flying.move ⟨8, 0, 1⟩
  obtain ⟨history, run⟩ := flying.reachable
  have outside : ¬ Inside world.node.localPosition.position := position ▸ outside_fence 0 1
  have rests : AtRest stock served world.node := by
    simp only [AtRest, flying.state, List.getElem?_eq_none (index.trans count).ge]
    exact nofun
  have taken := step_tick stock served calm flying.alive
  exact ⟨history, world, _, _, run, flying.state, outside, taken,
    (emergency_preempts stock run taken flying.ready outside).mpr rests⟩

/-- A vehicle that drifts over the fence while it lands is disarmed there. -/
theorem disarms_outside : ∃ history world after outputs, (offbNode stock).Run history world ∧
    world.node.setpointReady = true ∧ world.node.flightState = .land ∧
    world.node.localPosition.position = ⟨8, 0, 0⟩ ∧ ¬ Inside world.node.localPosition.position ∧
    (offbNode stock).step world (.tick ⟨true, true⟩ ⟨0, 0, 0⟩) = some (after, outputs) ∧
    .request .disarm ∈ outputs ∧ ¬ Preempted ⟨true, true⟩ world.node after.node outputs := by
  obtain ⟨landing, flying⟩ := stock_flyable.lands
  obtain ⟨drifting, flying, position, _⟩ := flying.move ⟨8, 0, 0⟩
  obtain ⟨world, flying, armed, same⟩ := flying.report ⟨"OFFBOARD", true⟩
  rw [← same] at position
  obtain ⟨history, run⟩ := flying.reachable
  have outside : ¬ Inside world.node.localPosition.position := position ▸ outside_fence 0 0
  have taken := step_tick stock served calm flying.alive
  have sent := flying.disarms (by rw [armed]) (by rw [position]; norm_num)
  refine ⟨history, world, _, _, run, flying.ready, flying.state, position, outside, taken, sent, fun preempted => ?_⟩
  exact absurd (preempted.silent .disarm sent) (by decide)

end FlightStack.Proofs
