import FlightStack.Proofs.NominalFlight

/-! When the node may command the autopilot. A request is judged by the tick that
sent it; the distance between two disarm requests is judged by the guard. -/

namespace FlightStack.Proofs
open BaseController TaskController OffbNode Mission
variable {α : Type} [Arithmetic α]

/-- A tick after the warm-up that may still launch the vehicle. -/
def LaunchTick (entry : Entry (World α) (Event α) (Output α)) : Prop :=
  entry.event.isTick = true ∧ entry.before.node.setpointReady = true ∧
    entry.before.node.flightState = .init ∧ entry.before.node.launchFlag = true ∧
    Inside entry.before.node.localPosition.position

def LandTick (config : Config α) (entry : Entry (World α) (Event α) (Output α)) : Prop :=
  ∃ services readings, entry.event = .tick services readings ∧ entry.before.node.setpointReady = true ∧
    (checked config services entry.before.node).flightState = .land

/-- A disarm request that was turned down, or whose answer was an error. -/
def DisarmFailed (event : Event α) : Prop :=
  event = .response .disarm .rejected ∨ event = .response .disarm .exception

variable {config : Config α}

/-- Between two disarm requests something lowered the flag. -/
private theorem disarm_between {first second : Entry (World α) (Event α) (Output α)} {between : History α}
    (start : (offbNode config).step first.before first.event = some (first.after, first.outputs))
    (path : (offbNode config).Path first.after between second.before)
    (again : (offbNode config).step second.before second.event = some (second.after, second.outputs))
    (sent : .request .disarm ∈ first.outputs) (resent : .request .disarm ∈ second.outputs) :
    ∃ entry ∈ between, DisarmFailed entry.event ∨ LandSawDisarmed config entry.before entry.event := by
  have raises {entry : Entry (World α) (Event α) (Output α)}
      (taken : (offbNode config).step entry.before entry.event = some (entry.after, entry.outputs))
      (sent : .request .disarm ∈ entry.outputs) : (guarding .disarm entry.before).raised = false ∧
        (guarding .disarm entry.after).raised = true := by
    obtain ⟨move, moved⟩ := moved_disarm taken
    have counted := List.count_pos_iff.mpr (mem_requests.mpr sent)
    rw [moved.sends] at counted
    have send : move = .send := by by_contra other; simp [other] at counted
    have step := (send ▸ moved.step).sent
    exact ⟨step.1, step.2.1⟩
  obtain ⟨past, entry, future, rfl, up, down⟩ := path.origin
    (fun world => (guarding .disarm world).raised = false) (by simp [(raises start sent).2]) (raises again resent).1
  obtain ⟨move, moved⟩ := moved_disarm path.entry.2.1
  refine ⟨entry, by simp, ?_⟩
  rcases moved.step.lowered (by simpa using up) (by simp [down]) with settle | drop
  · obtain ⟨answer, same, failed⟩ := moved.settles settle
    cases answer with
    | success => exact absurd rfl (failed rfl)
    | rejected => exact .inl (.inl same)
    | exception => exact .inl (.inr same)
  · exact .inr (moved.drops drop).2

theorem never_init {world after : World α} {history : History α} (path : (offbNode config).Path world history after)
    (left : world.node.flightState ≠ .init) : after.node.flightState ≠ .init := by
  intro back
  have backwards := road_number (back ▸ path_road path)
  cases state : world.node.flightState <;> simp_all [number]

theorem command_authority (config : Config α) {history : History α} {world : World α}
    (run : (offbNode config).Run history world) :
    (∀ entry ∈ history, .request .offboard ∈ entry.outputs →
      LaunchTick entry ∧ entry.before.node.currentState.mode ≠ "OFFBOARD") ∧
    (∀ entry ∈ history, .request .arm ∈ entry.outputs →
      LaunchTick entry ∧ entry.before.node.currentState.mode = "OFFBOARD" ∧
        entry.before.node.currentState.armed = false) ∧
    (∀ entry ∈ history, .request .disarm ∈ entry.outputs →
      LandTick config entry ∧ entry.before.node.currentState.armed = true ∧
        entry.before.node.localPosition.position.z < 0.03) ∧
    (∀ entry ∈ history, (requests entry.outputs).count .disarm ≤ 1) ∧
    (∀ past first between second future, history = past ++ first :: between ++ second :: future →
      .request .disarm ∈ first.outputs → .request .disarm ∈ second.outputs →
      ∃ entry ∈ between, DisarmFailed entry.event ∨ LandSawDisarmed config entry.before entry.event) ∧
    (∀ past entry future, history = past ++ entry :: future → entry.before.node.flightState ≠ .init →
      ∀ later ∈ entry :: future, .request .offboard ∉ later.outputs ∧ .request .arm ∉ later.outputs) := by
  have sending {entry : Entry (World α) (Event α) (Output α)} (member : entry ∈ history) {request : Request}
      (sent : .request request ∈ entry.outputs) : ∃ services readings, entry.event = .tick services readings ∧
        entry.before.node.setpointReady = true ∧ Authority config services entry.before.node request := by
    have taken := run.taken member
    exact sending_tick taken sent
  have offboard : ∀ entry ∈ history, .request .offboard ∈ entry.outputs →
      LaunchTick entry ∧ entry.before.node.currentState.mode ≠ "OFFBOARD" := by
    intro entry member sent
    obtain ⟨services, readings, tick, ready, state, launched, inside, mode⟩ := sending member sent
    exact ⟨⟨by rw [tick]; rfl, ready, state, launched, inside⟩, mode⟩
  have arm : ∀ entry ∈ history, .request .arm ∈ entry.outputs →
      LaunchTick entry ∧ entry.before.node.currentState.mode = "OFFBOARD" ∧
        entry.before.node.currentState.armed = false := by
    intro entry member sent
    obtain ⟨services, readings, tick, ready, state, launched, inside, mode⟩ := sending member sent
    exact ⟨⟨by rw [tick]; rfl, ready, state, launched, inside⟩, mode⟩
  refine ⟨offboard, arm, ?_, ?_, ?_, ?_⟩
  · intro entry member sent
    obtain ⟨services, readings, tick, ready, state, armed, low⟩ := sending member sent
    exact ⟨⟨services, readings, tick, ready, state⟩, armed, low⟩
  · intro entry member
    have taken := run.taken member
    obtain ⟨move, moved⟩ := moved_disarm taken
    rw [moved.sends]
    split <;> decide
  · rintro past first between second future rfl sent resent
    obtain ⟨_, taken, path, again⟩ := run.between
    exact disarm_between taken path again sent resent
  · rintro past entry future rfl left later member
    have start : (offbNode config).Path entry.before (entry :: future) world := .cons run.entry.2.1 run.entry.2.2
    obtain ⟨_, _, _, reached, _⟩ := start.mem member
    have away := never_init reached left
    have inside : later ∈ past ++ entry :: future := List.mem_append_right past member
    exact ⟨fun sent => away (offboard later inside sent).1.2.2.1, fun sent => away (arm later inside sent).1.2.2.1⟩

/-- The stock mission ends with a disarm request that `land()` was entitled to. -/
theorem command_authority_stock : ∃ history entry world, (offbNode stock).Run (history ++ [entry]) world ∧
    .request .disarm ∈ entry.outputs ∧ LandTick stock entry ∧ entry.before.node.currentState.armed = true ∧
    entry.before.node.localPosition.position.z < 0.03 := by
  obtain ⟨landing, flying⟩ := stock_flyable.lands
  obtain ⟨world, flying, armed, position⟩ := flying.ground
  obtain ⟨history, run⟩ := flying.reachable
  have taken := run.snoc (step_tick stock served calm flying.alive)
  have sent := flying.disarms armed (by rw [position]; norm_num)
  obtain ⟨_, _, disarm, _⟩ := command_authority stock taken
  exact ⟨history, _, _, taken, sent, disarm _ List.mem_concat_self sent⟩

end FlightStack.Proofs
