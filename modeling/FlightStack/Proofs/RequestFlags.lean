import FlightStack.Proofs.NodeStep

/-! The flags that keep the node from repeating a request. Each step of the node
is one move of each guard, so what the guards keep, every run keeps. -/

namespace FlightStack.Proofs
open BaseController TaskController OffbNode RequestGuard
variable {α : Type}

/-- What part of a callback does to the guard of a request, at any count. -/
structure Transfer (request : Request) (before after : BaseController α) (sent : List Request) (move : Move) :
    Prop where
  step : ∀ count, RequestGuard.Step ⟨flag before request, count⟩ move ⟨flag after request, count + sent.count request⟩
  sends : sent.count request = if move = .send then 1 else 0

theorem Transfer.idle {request : Request} {before after : BaseController α} {sent : List Request}
    (same : flag after request = flag before request) (silent : sent.count request = 0) :
    Transfer request before after sent .idle :=
  ⟨fun count => by rw [same, silent]; exact .idle _, silent⟩

theorem Transfer.send {request : Request} {before after : BaseController α} {sent : List Request}
    (down : flag before request = false) (up : flag after request = true) (once : sent.count request = 1) :
    Transfer request before after sent .send :=
  ⟨fun count => by rw [down, up, once]; exact .send count, once⟩

/-- The node with the flag of a request up. -/
def raising (base : BaseController α) : Request → BaseController α
  | .offboard => { base with applyOffboardFlag := true }
  | .arm => { base with applyArmFlag := true }
  | .disarm => { base with applyDisarmFlag := true }
  | .autoLand => base

theorem flag_raising (base : BaseController α) {asked request : Request} (different : request ≠ asked) :
    flag (raising base asked) request = flag base request := by
  cases asked <;> cases request <;> first | rfl | exact absurd rfl different

/-- A request that leaves and raises its own flag moves its own guard, and no other. -/
theorem Transfer.raise (base : BaseController α) (asked request : Request) (guarded : asked ≠ .autoLand)
    (down : flag base asked = false) :
    ∃ move, Transfer request base (raising base asked) [asked] move ∧
      (move = .idle ∨ move = .send ∧ request = asked) := by
  by_cases same : request = asked
  · subst same
    refine ⟨.send, .send down ?_ List.count_singleton_self, .inr ⟨rfl, rfl⟩⟩
    cases request with
    | autoLand => exact absurd rfl guarded
    | offboard | arm | disarm => rfl
  · refine ⟨.idle, .idle (flag_raising base same) ?_, .inl rfl⟩
    apply List.count_eq_zero.mpr
    intro member
    exact same (List.mem_singleton.mp member)

theorem Transfer.idle_flag {request : Request} {before after : BaseController α} {sent : List Request}
    (transfer : Transfer request before after sent .idle) : flag after request = flag before request :=
  congrArg RequestGuard.raised (transfer.step 0).idle_eq

private theorem answered_own (request : Request) (guarded : request ≠ .autoLand) (answer : Response)
    (base : BaseController α) (count : Nat) :
    ∃ move, RequestGuard.Step ⟨flag base request, count + 1⟩ move ⟨flag (answered request answer base) request, count⟩ ∧
      (move = .settle ∧ (request = .disarm → answer ≠ .success) ∨ move = .retain ∧ request = .disarm) := by
  cases request with
  | autoLand => exact absurd rfl guarded
  | offboard | arm => exact ⟨.settle, .settle _ count, .inl ⟨rfl, by simp⟩⟩
  | disarm =>
    cases answer with
    | success => exact ⟨.retain, .retain _ count, .inr ⟨rfl, rfl⟩⟩
    | rejected | exception => exact ⟨.settle, .settle _ count, .inl ⟨rfl, by simp⟩⟩

variable [Arithmetic α] {config : Config α} {services : Services} {readings : Readings}
  {node : TaskController α}

/-- The check only ever sends, and never a disarm request. -/
theorem Checked.transfer {after : TaskController α} {sent : List (Output α)}
    (check : Checked config services node after sent) {request : Request} (guarded : request ≠ .autoLand) :
    ∃ move, Transfer request node.toBaseController after.toBaseController (requests sent) move ∧
      (move = .idle ∨ move = .send ∧ request ≠ .disarm) := by
  cases check with
  | emergency outside =>
    refine ⟨.idle, .idle rfl ?_, .inl rfl⟩
    apply List.count_eq_zero.mpr
    intro member
    exact guarded (mem_requests_autoLand member)
  | idle => exact ⟨.idle, .idle rfl rfl, .inl rfl⟩
  | offboard inside state launched mode down service =>
    obtain ⟨move, transfer, idle | ⟨send, rfl⟩⟩ := Transfer.raise node.toBaseController .offboard request nofun down
    · exact ⟨move, transfer, .inl idle⟩
    · exact ⟨move, transfer, .inr ⟨send, nofun⟩⟩
  | arm inside state launched mode disarmed down service =>
    obtain ⟨move, transfer, idle | ⟨send, rfl⟩⟩ := Transfer.raise node.toBaseController .arm request nofun down
    · exact ⟨move, transfer, .inl idle⟩
    · exact ⟨move, transfer, .inr ⟨send, nofun⟩⟩
  | depart | climb | turn =>
    exact ⟨.idle, .idle (by cases request <;> rfl) rfl, .inl rfl⟩

theorem Flown.transfer {outcome : Outcome α} (flight : Flown config services readings node outcome)
    (request : Request) :
    ∃ move, Transfer request node.toBaseController outcome.node.toBaseController (requests outcome.outputs) move ∧
      (move = .idle ∨ request = .disarm ∧ (move = .send ∨
        move = .drop ∧ node.flightState = .land ∧ node.currentState.armed = false)) := by
  have quiet {after : BaseController α} {sent : List Request} (same : flag after request = flag node.toBaseController request)
      (silent : sent.count request = 0) : ∃ move, Transfer request node.toBaseController after sent move ∧
        (move = .idle ∨ request = .disarm ∧ (move = .send ∨
          move = .drop ∧ node.flightState = .land ∧ node.currentState.armed = false)) :=
    ⟨.idle, .idle same silent, .inl rfl⟩
  cases flight with
  | hold | climb | finished | fault | approach | descend => exact quiet rfl rfl
  | steer state steered away | arrive state steered near =>
    apply quiet (by cases request <;> rfl)
    rw [requests_setpoint (followed_isSetpoint steered.followed)]
    rfl
  | tilt state high =>
    apply quiet (by cases request <;> rfl)
    rw [requests_tiltLand _ _ _ _ high]
    rfl
  | touch => exact quiet (by cases request <;> rfl) rfl
  | disarm state armed low service down =>
    obtain ⟨move, transfer, idle | ⟨send, rfl⟩⟩ := Transfer.raise node.toBaseController .disarm request nofun down
    · exact ⟨move, transfer, .inl idle⟩
    · exact ⟨move, transfer, .inr ⟨rfl, .inl send⟩⟩
  | disarmed state disarmed =>
    by_cases same : request = .disarm
    · subst same
      exact ⟨.drop, ⟨fun count => .drop _ count, rfl⟩, .inr ⟨rfl, .inr ⟨rfl, state, disarmed⟩⟩⟩
    · refine quiet ?_ rfl
      cases request <;> first | rfl | exact absurd rfl same

/-- The move of a tick: the check's, unless the request is a disarm. -/
theorem Ticked.transfer {outcome : Outcome α} (ticked : Ticked config services readings node outcome)
    {request : Request} (guarded : request ≠ .autoLand) :
    ∃ move, Transfer request node.toBaseController outcome.node.toBaseController (requests outcome.outputs) move ∧
      (move = .idle ∨ move = .send ∨ move = .drop ∧ request = .disarm ∧ node.setpointReady = true ∧
        (checked config services node).flightState = .land ∧ node.currentState.armed = false) := by
  cases ticked with
  | warm cold => exact ⟨.idle, .idle rfl rfl, .inl rfl⟩
  | @flew sent flown ready check flight =>
    obtain ⟨first, checking, checkMove⟩ := check.transfer guarded
    obtain ⟨second, flying, flyMove⟩ := flight.transfer request
    have total : (requests (sent ++ taskStatePub (checked config services node).toBaseController :: flown.outputs)).count
        request = (requests sent).count request + (requests flown.outputs).count request := by simp
    rcases flyMove with rfl | ⟨rfl, flyMove⟩
    · have silent : (requests flown.outputs).count request = 0 := flying.sends
      have same : flag flown.node.toBaseController request =
          flag (checked config services node).toBaseController request := flying.idle_flag
      refine ⟨first, ⟨fun count => ?_, ?_⟩, ?_⟩
      · rw [same, total, silent]; exact checking.step count
      · rw [total, silent]; exact checking.sends
      · rcases checkMove with idle | ⟨send, _⟩
        · exact .inl idle
        · exact .inr (.inl send)
    · obtain rfl : first = .idle := by simpa using checkMove
      have silent : (requests sent).count .disarm = 0 := checking.sends
      have same := checking.idle_flag
      refine ⟨second, ⟨fun count => ?_, ?_⟩, ?_⟩
      · rw [← same, total, silent, Nat.zero_add]; exact flying.step count
      · rw [total, silent, Nat.zero_add]; exact flying.sends
      · rcases flyMove with send | ⟨drop, state, disarmed⟩
        · exact .inr (.inl send)
        · exact .inr (.inr ⟨drop, rfl, ready, state, check.armed_eq ▸ disarmed⟩)

theorem moved {world after : World α} {event : Event α} {outputs : List (Output α)}
    (taken : (offbNode config).step world event = some (after, outputs)) {request : Request}
    (guarded : request ≠ .autoLand) : ∃ move, Moved config request world event after outputs move := by
  obtain ⟨alive, stepped⟩ := stepped_cases taken
  cases stepped with
  | tick services readings ran ticked =>
    obtain ⟨move, transfer, moves⟩ := ticked.transfer guarded
    refine ⟨move, ?_, transfer.sends, ?_, ?_, ?_⟩
    · simpa only [guarding, List.count_append] using transfer.step (world.pending.count request)
    all_goals rcases moves with rfl | rfl | ⟨rfl, same, ready, state, disarmed⟩ <;> intro moved
    all_goals first | exact absurd moved (by decide) | exact ⟨same, services, readings, rfl, ready, state, disarmed⟩
  | response asked answer waiting =>
    by_cases own : request = asked
    · subst own
      have counted := List.count_pos_iff.mpr waiting
      obtain ⟨move, step, moves⟩ :=
        answered_own request guarded answer world.node.toBaseController (world.pending.count request - 1)
      rw [Nat.sub_add_cancel counted, ← List.count_erase_self] at step
      refine ⟨move, step, ?_, ?_, ?_, ?_⟩
      · rcases moves with ⟨rfl, _⟩ | ⟨rfl, _⟩ <;> rfl
      all_goals rcases moves with ⟨rfl, failed⟩ | ⟨rfl, same⟩ <;> intro moved
      all_goals first | exact absurd moved (by decide) | exact ⟨answer, rfl, failed⟩ | exact same
    · refine ⟨.idle, ?_, rfl, by simp, by simp, by simp⟩
      simp only [guarding, answered_other answer _ own, List.count_erase_of_ne own]
      exact .idle _
  | message event quiet unasked =>
    refine ⟨.idle, ?_, rfl, by simp, by simp, by simp⟩
    simp only [guarding, received_flag config _ unasked]
    exact .idle _

theorem moved_disarm {world after : World α} {event : Event α} {outputs : List (Output α)}
    (taken : (offbNode config).step world event = some (after, outputs)) :
    ∃ move, Moved config .disarm world event after outputs move :=
  moved taken (by simp)

/-! What each request is sent for -/

theorem Flown.sends {outcome : Outcome α} (flight : Flown config services readings node outcome)
    {request : Request} (member : request ∈ requests outcome.outputs) :
    request = .disarm ∧ node.flightState = .land ∧ node.currentState.armed = true ∧
      node.localPosition.position.z < 0.03 := by
  cases flight with
  | disarm state armed low => simpa using ⟨by simpa using member, state, armed, low⟩
  | steer state steered | arrive state steered =>
    rw [requests_setpoint (followed_isSetpoint steered.followed)] at member
    cases member
  | tilt state high =>
    rw [requests_tiltLand _ _ _ _ high] at member
    cases member
  | hold | climb | finished | fault | touch | descend | disarmed | approach => cases member

/-- What a tick must see before it sends a request. -/
def Authority (config : Config α) (services : Services) (node : TaskController α) : Request → Prop
  | .offboard => node.flightState = .init ∧ node.launchFlag = true ∧ Inside node.localPosition.position ∧
      node.currentState.mode ≠ "OFFBOARD"
  | .arm => node.flightState = .init ∧ node.launchFlag = true ∧ Inside node.localPosition.position ∧
      node.currentState.mode = "OFFBOARD" ∧ node.currentState.armed = false
  | .disarm => (checked config services node).flightState = .land ∧ node.currentState.armed = true ∧
      node.localPosition.position.z < 0.03
  | .autoLand => ¬ Inside node.localPosition.position

theorem Checked.sends {after : TaskController α} {sent : List (Output α)}
    (check : Checked config services node after sent) {request : Request} (member : request ∈ requests sent) :
    Authority config services node request := by
  cases check with
  | emergency outside =>
    obtain rfl := mem_requests_autoLand member
    exact outside
  | offboard inside state launched mode =>
    obtain rfl : request = .offboard := by simpa using member
    exact ⟨state, launched, inside, mode⟩
  | arm inside state launched mode disarmed =>
    obtain rfl : request = .arm := by simpa using member
    exact ⟨state, launched, inside, mode, disarmed⟩
  | idle | depart | climb | turn => cases member

theorem Ticked.sends {outcome : Outcome α} (ticked : Ticked config services readings node outcome)
    {request : Request} (member : request ∈ requests outcome.outputs) :
    node.setpointReady = true ∧ Authority config services node request := by
  cases ticked with
  | warm => cases member
  | flew ready check flight =>
    refine ⟨ready, ?_⟩
    simp only [requests_append, requests_info, List.mem_append] at member
    rcases member with member | member
    · exact check.sends member
    · obtain ⟨rfl, state, armed, low⟩ := flight.sends member
      exact ⟨state, check.armed_eq ▸ armed, check.frame.1 ▸ low⟩

theorem sending_tick {world after : World α} {event : Event α} {outputs : List (Output α)}
    (taken : (offbNode config).step world event = some (after, outputs)) {request : Request}
    (sent : .request request ∈ outputs) : ∃ services readings, event = .tick services readings ∧
      world.node.setpointReady = true ∧ Authority config services world.node request := by
  obtain ⟨_, stepped⟩ := stepped_cases taken
  cases stepped with
  | response | message => cases sent
  | tick services readings ran ticked => exact ⟨services, readings, rfl, ticked.sends (mem_requests.mpr sent)⟩

end FlightStack.Proofs
