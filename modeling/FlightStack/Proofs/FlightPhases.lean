import FlightStack.Proofs.NominalFlight

/-! The flight states are a one-way road whose gates were all checked. The past of
a run is its history, so each gate is an entry of it. -/

namespace FlightStack.Proofs
open BaseController TaskController OffbNode Mission
variable {α : Type} [Arithmetic α]

/-- A tick that published the warm-up setpoint and nothing else. -/
def WarmUp (entry : Entry (World α) (Event α) (Output α)) : Prop :=
  entry.event.isTick = true ∧ entry.outputs = [publishPositionSetpoint 0 0 0 0]

private theorem counter_step {config : Config α} {world after : World α} {event : Event α} {outputs : List (Output α)}
    (taken : (offbNode config).step world event = some (after, outputs)) :
    (WarmUp ⟨world, event, outputs, after⟩ ∧ world.node.setpointReady = false ∧
        after.node.offboardSetpointCounter = world.node.offboardSetpointCounter + 1 ∧
        after.node.setpointReady = decide (50 < world.node.offboardSetpointCounter + 1)) ∨
      (after.node.offboardSetpointCounter = world.node.offboardSetpointCounter ∧
        after.node.setpointReady = world.node.setpointReady) := by
  obtain ⟨_, stepped⟩ := stepped_cases taken
  cases stepped with
  | response | message => exact .inr ⟨rfl, rfl⟩
  | tick services readings ran ticked =>
    cases ticked with
    | warm cold =>
      refine .inl ⟨⟨rfl, rfl⟩, cold, rfl, ?_⟩
      simp only [cold]
      split <;> simp_all
    | flew ready check flight =>
      have frame : (checked config services world.node).offboardSetpointCounter = world.node.offboardSetpointCounter ∧
          (checked config services world.node).setpointReady = world.node.setpointReady := by
        generalize checked config services world.node = flying at check
        cases check <;> exact ⟨rfl, rfl⟩
      right
      rw [← frame.1, ← frame.2]
      cases flight <;> exact ⟨rfl, rfl⟩

theorem warm_ups {config : Config α} {history : History α} {world : World α}
    (run : (offbNode config).Run history world) :
    (∃ warm : History α, warm.Sublist history ∧ warm.length = world.node.offboardSetpointCounter ∧
        ∀ entry ∈ warm, WarmUp entry) ∧
      (world.node.setpointReady = true → 51 ≤ world.node.offboardSetpointCounter) := by
  induction run with
  | refl => exact ⟨⟨[], .refl _, rfl, by simp⟩, fun ready => by cases ready⟩
  | snoc earlier taken ih =>
    obtain ⟨⟨warm, within, counted, published⟩, ready⟩ := ih
    rcases counter_step taken with ⟨warmUp, _, counter, readiness⟩ | ⟨counter, readiness⟩
    · refine ⟨⟨warm ++ [_], within.append (.refl _), ?_, ?_⟩, ?_⟩
      · rw [counter, List.length_append, counted, List.length_singleton]
      · intro entry member
        rcases List.mem_append.mp member with old | new
        · exact published entry old
        · exact List.mem_singleton.mp new ▸ warmUp
      · rw [readiness, counter]
        exact fun enough => of_decide_eq_true enough
    · rw [counter, readiness]
      exact ⟨⟨warm, within.trans (List.sublist_append_left _ _), counted, published⟩, ready⟩

theorem Checked.road {config : Config α} {services : Services} {node after : TaskController α}
    {sent : List (Output α)} (check : Checked config services node after sent) :
    Relation.ReflGen Road node.flightState after.flightState := by
  cases check with
  | emergency | idle | offboard | arm => exact .refl
  | depart inside state => exact state ▸ .single .depart
  | climb inside state => exact state ▸ .single .climb
  | turn inside state => exact state ▸ .single .turn

theorem Flown.road {config : Config α} {services : Services} {readings : Readings} {node : TaskController α}
    {outcome : Outcome α} (flight : Flown config services readings node outcome) :
    Relation.ReflGen Road node.flightState outcome.node.flightState := by
  cases flight with
  | touch state => exact state ▸ .single .touch
  | hold | climb | finished | fault | steer | arrive | tilt | descend | disarm | disarmed | approach => exact .refl

/-- A step follows the road for at most one state in the check and one in the flight. -/
theorem step_road {config : Config α} {world after : World α} {event : Event α} {outputs : List (Output α)}
    (taken : (offbNode config).step world event = some (after, outputs)) :
    ∃ middle, Relation.ReflGen Road world.node.flightState middle ∧
      Relation.ReflGen Road middle after.node.flightState := by
  obtain ⟨_, stepped⟩ := stepped_cases taken
  cases stepped with
  | response request answer =>
    have frame := (received_frame config world.node.toBaseController (.response request answer)).1
    simp only [received] at frame
    simp only [frame]
    exact ⟨_, .refl, .refl⟩
  | message _ quiet unasked =>
    simp only [(received_frame config world.node.toBaseController event).1]
    exact ⟨_, .refl, .refl⟩
  | tick services readings ran ticked =>
    cases ticked with
    | warm => exact ⟨_, .refl, .refl⟩
    | flew ready check flight => exact ⟨_, check.road, flight.road⟩

theorem land_stays {state : FlightState} (road : Relation.ReflTransGen Road .land state) : state = .land := by
  induction road with
  | refl => rfl
  | tail _ edge ih => subst ih; cases edge

/-- A state whose number the flight has passed was left through its own move. -/
private theorem passed {config : Config α} {history : History α} {world : World α} {bound : Nat} {move : Move}
    (run : (offbNode config).Run history world)
    (only : ∀ {before event after outputs}, (mission config.waypoints.length).step before event = some (after, outputs) →
      ¬ bound < number before.state → bound < number after.state → event = move)
    (past : bound < number world.node.flightState) :
    ∃ earlier entry later, history = earlier ++ entry :: later ∧ (offbNode config).Run earlier entry.before ∧
      Allows config entry.before entry.event move := by
  obtain ⟨earlier, entry, later, rfl, allowed⟩ := (refines config).origin (fun stage => bound < number stage.state)
    only run (by simp [offbNode, stage, TaskController.initial, BaseController.initial, number]) past
  exact ⟨earlier, entry, later, rfl, run.entry.1, allowed⟩

theorem flight_phases (config : Config α) {history : History α} {world : World α}
    (run : (offbNode config).Run history world) :
    (∀ entry ∈ history, ∃ middle, Relation.ReflGen Road entry.before.node.flightState middle ∧
      Relation.ReflGen Road middle entry.after.node.flightState) ∧
    world.node.flightState ≠ .approach ∧
    (∀ entry ∈ history, entry.before.node.flightState = .land → entry.after.node.flightState = .land) ∧
    (number .init < number world.node.flightState →
      ∃ earlier entry later, history = earlier ++ entry :: later ∧
        (∃ warm : History α, warm.Sublist earlier ∧ 51 ≤ warm.length ∧ ∀ tick ∈ warm, WarmUp tick) ∧
        entry.event.isTick = true ∧ entry.before.node.launchFlag = true ∧
        entry.before.node.currentState.mode = "OFFBOARD" ∧ entry.before.node.currentState.armed = true ∧
        Inside entry.before.node.localPosition.position) ∧
    (number .takeoff < number world.node.flightState →
      ∃ entry ∈ history, entry.event.isTick = true ∧ entry.before.node.flightState = .takeoff ∧
        |entry.before.node.localPosition.position.z - config.takeoffHeight| ≤ config.waypointThreshold ∧
        Inside entry.before.node.localPosition.position) ∧
    (number .waypoint < number world.node.flightState →
      world.node.currentWaypointIndex = config.waypoints.length) ∧
    (world.node.flightState = .land →
      ∃ entry ∈ history, ∃ services readings, entry.event = .tick services readings ∧
        (checked config services entry.before.node).flightState = .tiltland ∧
        entry.before.node.localPosition.position.z < 0.08) := by
  have sound := stage_sound run
  refine ⟨?_, sound.onRoad, ?_, ?_, ?_, sound.finished, ?_⟩
  · intro entry member
    have taken := run.taken member
    exact step_road taken
  · intro entry member landing
    have taken := run.taken member
    exact land_stays (landing ▸ path_road (.snoc .refl taken))
  · intro past
    obtain ⟨earlier, entry, later, rfl, reached, services, readings, tick, ready, gate⟩ := passed run passes_init past
    obtain ⟨_, inside, launched, mode, armed⟩ := gate
    obtain ⟨⟨warm, within, counted, published⟩, enough⟩ := warm_ups reached
    exact ⟨earlier, entry, later, rfl, ⟨warm, within, counted ▸ enough ready, published⟩,
      by rw [tick]; rfl, launched, mode, armed, inside⟩
  · intro past
    obtain ⟨earlier, entry, later, rfl, _, services, readings, tick, _, state, inside, level⟩ :=
      passed run passes_takeoff past
    exact ⟨entry, by simp, by rw [tick]; rfl, state, level, inside⟩
  · intro landing
    obtain ⟨earlier, entry, later, rfl, _, services, readings, tick, _, state, low⟩ :=
      passed run passes_tiltland (show number .tiltland < number world.node.flightState by rw [landing]; decide)
    exact ⟨entry, by simp, services, readings, tick, state, low⟩

theorem flight_phases_stock : ∃ history world, (offbNode stock).Run history world ∧ world.node.flightState = .land ∧
    world.node.currentWaypointIndex = 3 ∧
    ∃ entry ∈ history, entry.event.isTick = true ∧ entry.before.node.flightState = .takeoff := by
  obtain ⟨world, flying⟩ := stock_flyable.lands
  obtain ⟨history, run⟩ := flying.reachable
  obtain ⟨_, _, _, _, climbed, visited, _⟩ := flight_phases stock run
  obtain ⟨entry, member, tick, state, _⟩ := climbed (by rw [flying.state]; decide)
  exact ⟨history, world, run, flying.state, visited (by rw [flying.state]; decide), entry, member, tick, state⟩

end FlightStack.Proofs
