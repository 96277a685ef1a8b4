import FlightStack.Proofs.FlightPhases

/-! The stream of setpoints the autopilot needs to stay in OFFBOARD mode. Three
kinds of ticks publish nothing: the one that ends the node, the one that touches
down, and any that flies a finished mission. Only the last can be followed by
another. -/

namespace FlightStack.Proofs
open BaseController TaskController OffbNode Mission

section Stream
variable {α : Type}

def Publishes (outputs : List (Output α)) : Prop := ∃ setpoint ∈ outputs, setpoint.isSetpoint = true

theorem publishes_cons {setpoint : Output α} (isSetpoint : setpoint.isSetpoint = true) (rest : List (Output α)) :
    Publishes (setpoint :: rest) := ⟨setpoint, List.mem_cons_self, isSetpoint⟩

theorem publishes_append (first rest : List (Output α)) :
    Publishes (first ++ rest) ↔ Publishes first ∨ Publishes rest := by
  simp only [Publishes, List.mem_append, or_and_right, exists_or]

theorem publishes_info (base : BaseController α) (rest : List (Output α)) :
    Publishes (taskStatePub base :: rest) ↔ Publishes rest := by
  simp only [Publishes, List.mem_cons, exists_eq_or_imp]
  exact or_iff_right (by simp [taskStatePub, Output.isSetpoint])

variable [Arithmetic α] {config : Config α} {services : Services} {readings : Readings} {node : TaskController α}

theorem Checked.quiet {after : TaskController α} {sent : List (Output α)}
    (check : Checked config services node after sent) : ¬ Publishes sent := by
  intro ⟨setpoint, member, isSetpoint⟩
  have steered : setpoint ∈ setpoints sent := List.mem_filter.mpr ⟨member, isSetpoint⟩
  rw [check.unsteered] at steered
  cases steered

/-- What a flight that published nothing did instead. -/
inductive Silent (config : Config α) (node : TaskController α) (outcome : Outcome α) : Prop where
  | finished (state : node.flightState = .waypoint) (done : config.waypoints.length ≤ node.currentWaypointIndex)
      (same : outcome.node = node)
  | fault (failed : outcome.fault ≠ none)
  | touch (state : node.flightState = .tiltland) (landed : outcome.node.flightState = .land)
  | approach (state : node.flightState = .approach)

theorem Flown.silent {outcome : Outcome α} (flight : Flown config services readings node outcome)
    (quiet : ¬ Publishes outcome.outputs) : Silent config node outcome := by
  cases flight with
  | finished state done => exact .finished state done rfl
  | fault => exact .fault (by simp)
  | touch state low => exact .touch state rfl
  | approach state => exact .approach state
  | hold | climb | descend | disarm | disarmed => exact absurd (publishes_cons rfl _) quiet
  | steer _ steered | arrive _ steered => exact absurd (publishes_cons (followed_isSetpoint steered.followed) _) quiet
  | tilt state high =>
    obtain ⟨setpoint, published, isSetpoint⟩ :=
      tiltLand_publishes config node.localPosition.position node.currentYaw node.tilt high
    exact absurd (published ▸ publishes_cons isSetpoint _) quiet

theorem Flown.of_finished {outcome : Outcome α} (flight : Flown config services readings node outcome)
    (state : node.flightState = .waypoint) (done : config.waypoints.length ≤ node.currentWaypointIndex) :
    outcome = ⟨node, [], none⟩ := by
  cases flight with
  | finished | approach => rfl
  | fault _ _ unfinished => exact absurd done (Nat.not_le.mpr unfinished)
  | steer _ steered | arrive _ steered =>
    exact absurd done (Nat.not_le.mpr (List.getElem?_eq_some_iff.mp steered.found).1)
  | hold other | climb other | tilt other | touch other | descend other | disarm other | disarmed other =>
    rw [state] at other
    cases other

theorem Flown.of_tiltland {outcome : Outcome α} (flight : Flown config services readings node outcome)
    (state : node.flightState = .tiltland) : Publishes outcome.outputs ↔ 0.08 ≤ node.localPosition.position.z := by
  cases flight with
  | touch _ low => exact iff_of_false (by simp [Publishes]) (not_le.mpr low)
  | tilt _ high =>
    obtain ⟨setpoint, published, isSetpoint⟩ :=
      tiltLand_publishes config node.localPosition.position node.currentYaw node.tilt high
    exact iff_of_true (published ▸ publishes_cons isSetpoint []) high
  | hold other | climb other | finished other | fault _ other | steer other | arrive other | descend other
  | disarm other | disarmed other | approach other => rw [state] at other; cases other

theorem Flown.of_land {outcome : Outcome α} (flight : Flown config services readings node outcome)
    (state : node.flightState = .land) : Publishes outcome.outputs := by
  obtain ⟨velocity, raised, sent, rfl, _⟩ := flight.landing state
  exact publishes_cons rfl sent

theorem tick_publishes (config : Config α) (services : Services) (readings : Readings) {node : TaskController α}
    (ready : node.setpointReady = true) :
    ∃ flown, Flown config services readings (checked config services node) flown ∧
      (timerCallback config services readings node).node = flown.node ∧
      (timerCallback config services readings node).fault = flown.fault ∧
      (Publishes (timerCallback config services readings node).outputs ↔ Publishes flown.outputs) := by
  obtain ⟨sent, flown, check, flight, ran⟩ := tick_flies config services readings node ready
  refine ⟨flown, flight, by rw [ran], by rw [ran], ?_⟩
  rw [ran, publishes_append, publishes_info, or_iff_right check.quiet]

/-! The two conditions of a gap -/

/-- A tick that finds no waypoint left to fly and cannot turn to the landing: it
is outside the fence, or it has only just ended the climb. -/
def Drained (config : Config α) (node : TaskController α) : Prop :=
  node.setpointReady = true ∧
    (node.flightState = .waypoint ∧ config.waypoints.length ≤ node.currentWaypointIndex ∧
        ¬ Inside node.localPosition.position ∨
      node.flightState = .takeoff ∧ config.waypoints = [] ∧ Inside node.localPosition.position ∧
        |node.localPosition.position.z - config.takeoffHeight| ≤ config.waypointThreshold)

/-- A tick that cannot start the tilt landing, or ends it at once. -/
def Stalled (node : TaskController α) : Prop :=
  ¬ Inside node.localPosition.position ∨ node.localPosition.position.z < 0.08

theorem checked_finished (services : Services) (ready : node.setpointReady = true)
    (sound : Sound config.waypoints.length (stage node)) :
    (checked config services node).flightState = .waypoint ∧
        config.waypoints.length ≤ (checked config services node).currentWaypointIndex ↔ Drained config node := by
  have check := checked_cases config services node
  generalize checked config services node = after at check ⊢
  generalize (checkTaskSwitchConditions config services node).2.2 = sent at check
  cases check with
  | emergency outside => simp [Drained, ready, outside]
  | idle inside low unfinished =>
    refine iff_of_false (fun finished => absurd finished.2 (Nat.not_le.mpr (unfinished finished.1))) ?_
    rintro ⟨_, ⟨_, _, outside⟩ | ⟨state, _, _, level⟩⟩
    · exact outside inside
    · exact absurd level (not_le.mpr (low state))
  | offboard _ state | arm _ state | depart _ state => simp [Drained, state]
  | climb inside state level =>
    have grounded : node.currentWaypointIndex = 0 := sound.grounded (by simp [stage, state, number])
    simp [Drained, ready, state, inside, level, grounded]
  | turn inside state finished => simp [Drained, state, inside]

theorem turn_publishes (ready : node.setpointReady = true) (state : node.flightState = .waypoint)
    (done : config.waypoints.length ≤ node.currentWaypointIndex) :
    Publishes (timerCallback config services readings node).outputs ↔ ¬ Stalled node := by
  obtain ⟨flown, flight, _, _, same⟩ := tick_publishes config services readings ready
  rw [same, Stalled]
  by_cases inside : Inside node.localPosition.position
  · rw [checked_turn config services node inside state done] at flight
    rw [flight.of_tiltland rfl]
    simp [inside]
  · rw [checked_outside config services node inside] at flight
    rw [flight.of_finished state done]
    simp [inside, Publishes]

theorem quiet_path {start final : World α} {between : History α} (path : (offbNode config).Path start between final)
    (quiet : ∀ entry ∈ between, entry.event.isTick = false) :
    final.node.flightState = start.node.flightState ∧
      final.node.currentWaypointIndex = start.node.currentWaypointIndex ∧
      final.node.setpointReady = start.node.setpointReady := by
  refine path.relates (fun start final : World α => final.node.flightState = start.node.flightState ∧
      final.node.currentWaypointIndex = start.node.currentWaypointIndex ∧
      final.node.setpointReady = start.node.setpointReady) (fun _ => ⟨rfl, rfl, rfl⟩) ?_ ?_
  · exact fun first last => ⟨last.1.trans first.1, last.2.1.trans first.2.1, last.2.2.trans first.2.2⟩
  · intro ⟨before, event, outputs, after⟩ member taken
    have untimed := quiet _ member
    dsimp only at taken
    obtain ⟨_, stepped⟩ := stepped_cases taken
    cases stepped with
    | tick => cases untimed
    | response request answer =>
      exact ⟨(received_frame config before.node.toBaseController (.response request answer)).1, rfl, rfl⟩
    | message => exact ⟨(received_frame config before.node.toBaseController event).1, rfl, rfl⟩

theorem Drained.silent (drained : Drained config node) (services : Services) (readings : Readings)
    (sound : Sound config.waypoints.length (stage node)) :
    ¬ Publishes (timerCallback config services readings node).outputs ∧
      (timerCallback config services readings node).node.flightState = .waypoint ∧
      config.waypoints.length ≤ (timerCallback config services readings node).node.currentWaypointIndex := by
  obtain ⟨state, done⟩ := (checked_finished services drained.1 sound).mpr drained
  obtain ⟨flown, flight, same, _, published⟩ := tick_publishes config services readings drained.1
  have idle := flight.of_finished state done
  rw [published, same, idle]
  exact ⟨by simp [Publishes], state, done⟩

theorem outside_idles (config : Config α) (services : Services) (readings : Readings) {node : TaskController α}
    (ready : node.setpointReady = true) (state : node.flightState = .waypoint)
    (done : config.waypoints.length ≤ node.currentWaypointIndex) (outside : ¬ Inside node.localPosition.position) :
    (timerCallback config services readings node).node = node ∧
      (timerCallback config services readings node).fault = none ∧
      ¬ Publishes (timerCallback config services readings node).outputs := by
  obtain ⟨flown, flight, same, fault, published⟩ := tick_publishes config services readings ready
  rw [checked_outside config services node outside] at flight
  have idle := flight.of_finished state done
  rw [same, fault, published, idle]
  exact ⟨rfl, rfl, by simp [Publishes]⟩

theorem silent_tick (sound : Sound config.waypoints.length (stage node)) (ready : node.setpointReady = true)
    (alive : (timerCallback config services readings node).fault = none)
    (silent : ¬ Publishes (timerCallback config services readings node).outputs) :
    Drained config node ∨ (timerCallback config services readings node).node.flightState = .land := by
  obtain ⟨flown, flight, same, fault, published⟩ := tick_publishes config services readings ready
  rw [published] at silent
  rw [fault] at alive
  rw [same]
  cases flight.silent silent with
  | finished state done => exact .inl ((checked_finished services ready sound).mp ⟨state, done⟩)
  | fault failed => exact absurd alive failed
  | touch _ landed => exact .inr landed
  | approach state =>
    have road := (checked_cases config services node).road
    have onRoad : node.flightState ≠ .approach := sound.onRoad
    rw [state] at road
    generalize node.flightState = earlier at road onRoad
    cases road with
    | refl => exact absurd rfl onRoad
    | single edge => cases edge

/-- The stream of setpoints has a gap of two ticks exactly where a drained mission
is followed by a tick that cannot land, or lands at once. -/
theorem setpoint_stream (config : Config α) {history : History α} {world : World α}
    (run : (offbNode config).Run history world) :
    ∀ past first between second future, history = past ++ first :: between ++ second :: future →
      first.event.isTick = true → second.event.isTick = true → (∀ entry ∈ between, entry.event.isTick = false) →
      (Publishes first.outputs ∨ Publishes second.outputs ↔
        ¬ (Drained config first.before.node ∧ Stalled second.before.node)) := by
  rintro past ⟨before, event, outputs, middle⟩ between ⟨resumed, next, published, after⟩ future rfl tick again quiet
  obtain ⟨services, readings, rfl⟩ := isTick_iff.mp tick
  obtain ⟨served, clocks, rfl⟩ := isTick_iff.mp again
  obtain ⟨reached, taken, idle, retaken⟩ := run.between
  dsimp only at reached taken idle retaken ⊢
  obtain ⟨state, index, warm⟩ := quiet_path idle quiet
  have sound := stage_sound reached
  have alive := path_alive idle (stepped_cases retaken).1
  rw [step_tick config services readings (stepped_cases taken).1] at taken
  rw [step_tick config served clocks (stepped_cases retaken).1] at retaken
  cases taken
  cases retaken
  by_cases ready : before.node.setpointReady = true
  · have stays := (ticked_cases config services readings before.node).ready ready
    by_cases drained : Drained config before.node
    · obtain ⟨silent, waypoint, done⟩ := drained.silent services readings sound
      rw [or_iff_right silent, turn_publishes (warm.trans stays) (state.trans waypoint) (index ▸ done)]
      simp [drained]
    · refine iff_of_true ?_ (fun both => drained both.1)
      by_contra silent
      obtain ⟨first, second⟩ := not_or.mp silent
      have landed := (silent_tick sound ready alive first).resolve_left drained
      obtain ⟨flown, flight, _, _, same⟩ := tick_publishes config served clocks (warm.trans stays)
      exact second (same.mpr (flight.of_land (checked_lands (state.trans landed))))
  · refine iff_of_true (.inl ?_) (fun both => ready both.1.1)
    rw [timerCallback, if_pos (by simpa using ready)]
    exact publishes_cons rfl []

end Stream

/-- The stock mission has visited its last waypoint, and the vehicle is carried out of
the fence. -/
theorem drained_stock : ∃ history start, (offbNode stock).Run history start ∧ start.fault = none ∧
    start.node.flightState = .waypoint ∧ start.node.currentWaypointIndex = 3 ∧
    start.node.localPosition.position = ⟨8, 0, 1⟩ ∧ Drained stock start.node ∧
    (offbNode stock).step start (.tick served calm) =
      some (⟨start.node, start.pending ++ requests (timerCallback stock served calm start.node).outputs, none⟩,
        (timerCallback stock served calm start.node).outputs) ∧
    ¬ Publishes (timerCallback stock served calm start.node).outputs := by
  obtain ⟨visited, flying, count⟩ := stock_flyable.visited
  obtain ⟨start, flying, position, index, _⟩ := flying.move ⟨8, 0, 1⟩
  obtain ⟨history, run⟩ := flying.reachable
  have outside : ¬ Inside start.node.localPosition.position := position ▸ outside_fence 0 1
  have last := index.trans count
  obtain ⟨same, safe, silent⟩ := outside_idles stock served calm flying.ready flying.state last.ge outside
  have taken := step_tick stock served calm flying.alive
  rw [same, safe] at taken
  exact ⟨history, start, run, flying.alive, flying.state, last, position,
    ⟨flying.ready, .inl ⟨flying.state, last.ge, outside⟩⟩, taken, silent⟩

/-- A tick outside the fence publishes nothing, but the next one finds the vehicle back
inside and does. -/
theorem setpoint_stream_stock : ∃ history first moved second world,
    (offbNode stock).Run (history ++ [first] ++ [moved] ++ [second]) world ∧ first.event.isTick = true ∧
    moved.event = .localPosition (level ⟨0, 0, 1⟩) ∧ second.event.isTick = true ∧ Drained stock first.before.node ∧
    ¬ Publishes first.outputs ∧ Publishes second.outputs := by
  obtain ⟨history, start, run, _, _, _, _, drained, taken, silent⟩ := drained_stock
  have whole := ((run.snoc taken).snoc (step_pose stock ⟨0, 0, 1⟩ rfl)).snoc (step_tick stock served calm rfl)
  have inside : Inside (⟨0, 0, 1⟩ : Position ℝ) := by
    simp only [Inside, abs_zero, abs_one]
    norm_num
  refine ⟨history, _, _, _, _, whole, rfl, rfl, rfl, drained, silent, ?_⟩
  have split {first moved second : Entry (World ℝ) (Event ℝ) (Output ℝ)} :
      history ++ [first] ++ [moved] ++ [second] = history ++ first :: [moved] ++ second :: [] := by simp
  refine ((setpoint_stream stock whole history _ _ _ [] split rfl rfl ?_).mpr ?_).resolve_left silent
  · exact List.forall_mem_singleton.mpr rfl
  rintro ⟨_, outside | low⟩
  · exact outside inside
  · have high : ¬ (1 : ℝ) < 0.08 := by norm_num
    exact high low

/-- Two ticks outside the fence, once the stock mission has visited its last waypoint. -/
theorem two_silent_ticks : ∃ history world first second, (offbNode stock).Run (history ++ [first] ++ [second]) world ∧
    first.event = .tick ⟨true, true⟩ ⟨0, 0, 0⟩ ∧ second.event = .tick ⟨true, true⟩ ⟨0, 0, 0⟩ ∧
    first.before.node.flightState = .waypoint ∧ first.before.node.currentWaypointIndex = 3 ∧
    first.before.node.localPosition.position = ⟨8, 0, 1⟩ ∧
    ¬ Publishes first.outputs ∧ ¬ Publishes second.outputs := by
  obtain ⟨history, start, run, alive, state, last, position, _, taken, silent⟩ := drained_stock
  exact ⟨history, _, _, _, (run.snoc taken).snoc (step_tick stock served calm rfl), rfl, rfl, state, last, position,
    silent, silent⟩

end FlightStack.Proofs
