import FlightStack.Proofs.NominalFlight

/-! The requests of the launch. Their flags are lowered by the answer and by nothing
else, so a flag is up exactly while its request is unanswered. -/

namespace FlightStack.Proofs
open BaseController TaskController OffbNode RequestGuard
variable {α : Type} [Arithmetic α] {config : Config α} {services : Services} {readings : Readings}
  {node : TaskController α}

/-- No event but an answer lowers these flags, and every answer does. -/
theorem guarding_exact {history : History α} {world : World α} (run : (offbNode config).Run history world)
    {request : Request} (launching : request = .offboard ∨ request = .arm) : (guarding request world).Exact := by
  apply run.invariant (fun world => (guarding request world).Exact)
  · rcases launching with rfl | rfl <;> rfl
  · intro before event after outputs taken exact
    have guarded : request ≠ .autoLand := by rcases launching with rfl | rfl <;> decide
    have notDisarm : request ≠ .disarm := by rcases launching with rfl | rfl <;> decide
    obtain ⟨move, moved⟩ := moved taken guarded
    exact moved.step.exact (fun retain => notDisarm (moved.retains retain))
      (fun drop => notDisarm (moved.drops drop).1) exact

/-- In a launch tick without OFFBOARD mode, the request leaves unless the flag or
the service holds it back. -/
theorem offboard_sent_iff (ready : node.setpointReady = true) (state : node.flightState = .init)
    (launched : node.launchFlag = true) (inside : Inside node.localPosition.position)
    (mode : node.currentState.mode ≠ "OFFBOARD") :
    .request .offboard ∈ (timerCallback config services readings node).outputs ↔
      node.applyOffboardFlag = false ∧ services.setMode = true := by
  rw [← mem_requests]
  simp only [timerCallback, ready, Bool.true_eq_false, if_false, checkTaskSwitchConditions, emergency_eq _ inside,
    Bool.false_eq_true, state, launched, mode, ne_eq, not_false_eq_true, if_true, engageOffboardMode]
  cases node.applyOffboardFlag <;> cases services.setMode <;> simp [flyState, state]

theorem arm_sent_iff (ready : node.setpointReady = true) (state : node.flightState = .init)
    (launched : node.launchFlag = true) (inside : Inside node.localPosition.position)
    (mode : node.currentState.mode = "OFFBOARD") (disarmed : node.currentState.armed = false) :
    .request .arm ∈ (timerCallback config services readings node).outputs ↔
      node.applyArmFlag = false ∧ services.arming = true := by
  rw [← mem_requests]
  simp only [timerCallback, ready, Bool.true_eq_false, if_false, checkTaskSwitchConditions, emergency_eq _ inside,
    Bool.false_eq_true, state, launched, mode, ne_eq, not_true_eq_false, disarmed, if_true, BaseController.arm]
  cases node.applyArmFlag <;> cases services.arming <;> simp [flyState, state]

omit [Arithmetic α] in
private theorem down_iff {request : Request} {world : World α} (exact : (guarding request world).Exact) :
    flag world.node.toBaseController request = false ↔ world.pending.count request = 0 := by
  simp only [RequestGuard.Exact, guarding] at exact
  rw [exact]
  cases flag world.node.toBaseController request <;> decide

theorem launch_requests (config : Config α) {history : History α} {world : World α}
    (run : (offbNode config).Run history world) :
    ((world.node.applyOffboardFlag = true ↔ world.pending.count .offboard = 1) ∧
      world.pending.count .offboard ≤ 1) ∧
    ((world.node.applyArmFlag = true ↔ world.pending.count .arm = 1) ∧ world.pending.count .arm ≤ 1) ∧
    ∀ services readings after outputs,
      (offbNode config).step world (.tick services readings) = some (after, outputs) →
      world.node.setpointReady = true → world.node.flightState = .init → world.node.launchFlag = true →
      Inside world.node.localPosition.position →
      (world.node.currentState.mode ≠ "OFFBOARD" →
        (.request .offboard ∈ outputs ↔ world.pending.count .offboard = 0 ∧ services.setMode = true)) ∧
      (world.node.currentState.mode = "OFFBOARD" → world.node.currentState.armed = false →
        (.request .arm ∈ outputs ↔ world.pending.count .arm = 0 ∧ services.arming = true)) := by
  have offboard := guarding_exact run (.inl rfl : Request.offboard = .offboard ∨ _)
  have arm := guarding_exact run (.inr rfl : _ ∨ Request.arm = .arm)
  refine ⟨offboard.iff, arm.iff, ?_⟩
  intro services readings after outputs taken ready state launched inside
  obtain ⟨alive, _⟩ := stepped_cases taken
  rw [step_tick config services readings alive] at taken
  cases taken
  constructor
  · intro mode
    rw [offboard_sent_iff ready state launched inside mode, ← down_iff offboard]
    rfl
  · intro mode disarmed
    rw [arm_sent_iff ready state launched inside mode disarmed, ← down_iff arm]
    rfl

theorem launch_requests_stock : ∃ history world after outputs, (offbNode stock).Run history world ∧
    (offbNode stock).step world (.tick ⟨true, true⟩ ⟨0, 0, 0⟩) = some (after, outputs) ∧
    .request .offboard ∈ outputs := by
  have launched := (warm_up stock (Nat.le_refl 51)).step (step_launch stock rfl)
  obtain ⟨history, run⟩ := launched
  have taken := step_tick stock served calm (rfl : (⟨{ (warmed stock 51).node with launchFlag := true }, [], none⟩ :
    World ℝ).fault = none)
  obtain ⟨_, _, sending⟩ := launch_requests stock run
  have sent := (sending served calm _ _ taken rfl rfl rfl inside_origin).1 (by decide)
  exact ⟨history, _, _, _, run, taken, sent.mpr ⟨rfl, rfl⟩⟩

end FlightStack.Proofs
