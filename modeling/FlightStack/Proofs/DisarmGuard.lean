import FlightStack.Proofs.NominalFlight

/-! The flag against repeated disarm requests. It is lowered by a vehicle that
reports to be disarmed, whether or not the request has been answered. -/

namespace FlightStack.Proofs
open BaseController TaskController OffbNode RequestGuard

section Guard
variable {α : Type} [Arithmetic α] {config : Config α}

/-- The tick takes the vehicle to be disarmed while a request is unanswered. -/
def Forgets (config : Config α) (world : World α) (event : Event α) : Prop :=
  LandSawDisarmed config world event ∧ 0 < world.pending.count .disarm

theorem guarding_single {start world : World α} {history : History α} (path : (offbNode config).Path start history world)
    (remembers : ∀ entry ∈ history, ¬ Forgets config entry.before entry.event)
    (single : (guarding .disarm start).Single) : (guarding .disarm world).Single := by
  apply path.invariant (fun world => (guarding .disarm world).Single) single
  intro entry member taken single
  obtain ⟨move, moved⟩ := moved_disarm taken
  apply moved.step.single _ single
  intro drop
  exact Nat.eq_zero_of_not_pos fun waiting => remembers entry member ⟨(moved.drops drop).2, waiting⟩

private theorem land_step (config : Config α) (services : Services) (readings : Readings) {world : World α}
    (alive : world.fault = none) (ready : world.node.setpointReady = true)
    (landing : (checked config services world.node).flightState = .land) :
    ∃ after, (offbNode config).step world (.tick services readings) =
        some (after, (timerCallback config services readings world.node).outputs) ∧
      after.fault = none ∧ after.node.setpointReady = true ∧ after.node.flightState = .land ∧
      (world.node.currentState.armed = false → after.node.applyDisarmFlag = false) ∧
      after.pending = world.pending ++ requests (timerCallback config services readings world.node).outputs := by
  refine ⟨_, step_tick config services readings alive, ?_⟩
  obtain ⟨sent, flown, check, flight, ran⟩ := tick_flies config services readings world.node ready
  obtain ⟨velocity, raised, requested, rfl, lowers, _⟩ := flight.landing landing
  rw [ran, ← check.armed_eq]
  exact ⟨rfl, check.ready_eq.trans ready, landing, lowers, rfl⟩

private theorem armed_ground (config : Config α) (world : World α) (alive : world.fault = none) :
    ∃ more grounded, (offbNode config).Path world more grounded ∧ grounded.fault = none ∧
      grounded.node.setpointReady = world.node.setpointReady ∧ grounded.node.flightState = world.node.flightState ∧
      grounded.node.applyDisarmFlag = world.node.applyDisarmFlag ∧ grounded.pending = world.pending ∧
      grounded.node.currentState.armed = true ∧ grounded.node.localPosition.position = ⟨0, 0, 0⟩ := by
  have path := Machine.Path.refl.snoc (step_state config ⟨"OFFBOARD", true⟩ alive)
  exact ⟨_, _, path.snoc (step_pose config ⟨0, 0, 0⟩ rfl), rfl, rfl, rfl, rfl, rfl, rfl, rfl⟩

theorem Forgets.doubles {world : World α} (alive : world.fault = none) {event : Event α}
    (forgets : Forgets config world event) :
    ∃ more final, (offbNode config).Path world more final ∧ 1 < final.pending.count .disarm := by
  obtain ⟨⟨services, readings, rfl, ready, landing, disarmed⟩, waiting⟩ := forgets
  obtain ⟨after, taken, alive, ready, state, down, pending⟩ := land_step config services readings alive ready landing
  obtain ⟨more, grounded, path, alive, sameReady, sameState, sameFlag, same, armed, position⟩ :=
    armed_ground config after alive
  have sent := disarm_sent config served calm (sameReady.trans ready) (sameState.trans state) armed
    (by rw [position]; norm_num) rfl (sameFlag.trans (down disarmed))
  refine ⟨_, _, (Machine.Path.cons taken path).snoc (step_tick config served calm alive), ?_⟩
  have again := List.count_pos_iff.mpr (mem_requests.mpr sent)
  rw [List.count_append, same, pending, List.count_append]
  omega

/-- At most one disarm request is unanswered in every run that forgets none, and
every run that is about to forget one can go on to two. -/
theorem single_disarm (config : Config α) {history : History α} {world : World α}
    (run : (offbNode config).Run history world) :
    ((∀ entry ∈ history, ¬ Forgets config entry.before entry.event) →
      (∀ entry ∈ history, entry.after.pending.count .disarm ≤ 1) ∧ world.pending.count .disarm ≤ 1) ∧
    ∀ event, world.fault = none → Forgets config world event →
      ∃ more final, (offbNode config).Path world more final ∧ 1 < final.pending.count .disarm := by
  refine ⟨fun remembers => ?_, fun event alive forgets => forgets.doubles alive⟩
  have single : (guarding .disarm (offbNode config).initial).Single := Nat.le_refl 0
  refine ⟨fun entry member => ?_, (guarding_single run remembers single).le_one⟩
  obtain ⟨past, future, rfl, reached, taken, _⟩ := run.mem member
  exact (guarding_single (reached.snoc taken)
    (fun earlier member => remembers earlier (by simp at member ⊢; tauto)) single).le_one

end Guard

/-- A vehicle that reports to be disarmed, and then armed again, before the answer
arrives is asked to disarm twice. -/
private theorem stock_doubles : ∃ history world, (offbNode stock).Run history world ∧ 1 < world.pending.count .disarm := by
  obtain ⟨landing, flying⟩ := stock_flyable.lands
  obtain ⟨grounded, flying, armed, position⟩ := flying.ground
  obtain ⟨history, run⟩ := flying.reachable
  have sent := flying.disarms armed (by rw [position]; norm_num)
  obtain ⟨asked, taken, alive, ready, state, _, pending⟩ :=
    land_step stock served calm flying.alive flying.ready (checked_lands flying.state)
  have waiting : 0 < asked.pending.count .disarm := by
    have counted := List.count_pos_iff.mpr (mem_requests.mpr sent)
    rw [pending, List.count_append]
    omega
  have reported := step_state stock ⟨"OFFBOARD", false⟩ alive
  have forgets : Forgets stock ⟨{ asked.node with currentState := ⟨"OFFBOARD", false⟩ }, asked.pending, none⟩
      (.tick served calm) :=
    ⟨⟨served, calm, rfl, ready, checked_lands state, rfl⟩, waiting⟩
  obtain ⟨more, final, doubled, twice⟩ := forgets.doubles rfl
  exact ⟨_, final, ((run.snoc taken).snoc reported).append doubled, twice⟩

theorem single_disarm_stock : ∃ history world, (offbNode stock).Run history world ∧ 1 < world.pending.count .disarm ∧
    ∃ entry ∈ history, Forgets stock entry.before entry.event := by
  obtain ⟨history, world, run, twice⟩ := stock_doubles
  refine ⟨history, world, run, twice, ?_⟩
  by_contra remembers
  push Not at remembers
  exact absurd ((single_disarm stock run).1 remembers).2 (Nat.not_le.mpr twice)

theorem two_disarms : ¬ ∀ history world, (offbNode stock).Run history world → world.pending.count .disarm ≤ 1 := by
  intro single
  obtain ⟨history, world, run, twice⟩ := stock_doubles
  exact absurd (single history world run) (Nat.not_le.mpr twice)

end FlightStack.Proofs
