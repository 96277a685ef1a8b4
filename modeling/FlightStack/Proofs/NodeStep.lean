import FlightStack.Library.RequestGuard
import FlightStack.Proofs.Tick

/-! One step of the running node: which of its parts can change, what it can
send, and how it moves the three guarded requests. -/

namespace FlightStack.Proofs
open BaseController TaskController OffbNode
variable {α : Type}

/-! What counts as a request, and what as a setpoint -/

@[simp] theorem requests_nil : requests ([] : List (Output α)) = [] := rfl

@[simp] theorem requests_append (first rest : List (Output α)) :
    requests (first ++ rest) = requests first ++ requests rest := List.filterMap_append

@[simp] theorem requests_request (sent : Request) (rest : List (Output α)) :
    requests (.request sent :: rest) = sent :: requests rest := rfl

@[simp] theorem requests_info (base : BaseController α) (rest : List (Output α)) :
    requests (taskStatePub base :: rest) = requests rest := rfl

theorem requests_setpoint {setpoint : Output α} (published : setpoint.isSetpoint = true) (rest : List (Output α)) :
    requests (setpoint :: rest) = requests rest := by
  cases setpoint <;> first | rfl | cases published

@[simp] theorem requests_position (x y z yaw : α) (rest : List (Output α)) :
    requests (publishPositionSetpoint x y z yaw :: rest) = requests rest := rfl

def setpoints (outputs : List (Output α)) : List (Output α) := outputs.filter Output.isSetpoint

theorem mem_requests {sent : Request} {outputs : List (Output α)} :
    sent ∈ requests outputs ↔ .request sent ∈ outputs := by
  rw [requests, List.mem_filterMap]
  constructor
  · intro ⟨output, member, same⟩
    cases output <;> simp only [Output.request?, Option.some.injEq, reduceCtorEq] at same
    exact same ▸ member
  · exact fun member => ⟨_, member, rfl⟩

theorem mem_requests_autoLand {services : Services} {sent : Request}
    (member : sent ∈ requests (autoLand services : List (Output α))) : sent = .autoLand := by
  unfold autoLand at member
  split at member
  · exact List.mem_singleton.mp member
  · cases member

theorem received_frame (config : Config α) (base : BaseController α) (event : Event α) :
    (received config base event).flightState = base.flightState ∧
      (received config base event).cross = base.cross := by
  cases event with
  | tick | vehicleState | localPosition => exact ⟨rfl, rfl⟩
  | launch data => cases data <;> exact ⟨rfl, rfl⟩
  | task data => simp only [received, taskCallback]; split <;> [split; skip] <;> exact ⟨rfl, rfl⟩
  | response request answer => cases request <;> [skip; skip; skip; cases answer] <;> exact ⟨rfl, rfl⟩

/-! Guarded requests -/

/-- The flag that guards a request. AUTO.LAND has none. -/
def flag (base : BaseController α) : Request → Bool
  | .offboard => base.applyOffboardFlag
  | .arm => base.applyArmFlag
  | .disarm => base.applyDisarmFlag
  | .autoLand => false

def guarding (request : Request) (world : World α) : RequestGuard :=
  ⟨flag world.node.toBaseController request, world.pending.count request⟩

theorem received_flag (config : Config α) (base : BaseController α) {event : Event α}
    (unasked : ∀ request answer, event ≠ .response request answer) (request : Request) :
    flag (received config base event) request = flag base request := by
  cases event with
  | tick | vehicleState | localPosition => cases request <;> rfl
  | launch data => cases data <;> cases request <;> rfl
  | task data => simp only [received, taskCallback]; split <;> [split; skip] <;> cases request <;> rfl
  | response asked answer => exact absurd rfl (unasked asked answer)

theorem answered_other {asked request : Request} (answer : Response) (base : BaseController α)
    (different : request ≠ asked) : flag (answered asked answer base) request = flag base request := by
  cases asked with
  | offboard => cases request <;> first | rfl | exact absurd rfl different
  | arm => cases request <;> first | rfl | exact absurd rfl different
  | autoLand => rfl
  | disarm => cases answer <;> cases request <;> first | rfl | exact absurd rfl different

variable [Arithmetic α]

@[simp] theorem requests_velocity (config : Config α) (x y z yaw : α) (rest : List (Output α)) :
    requests (publishVelocityBody config x y z yaw :: rest) = requests rest := rfl

theorem followed_isSetpoint {config : Config α} {now : Time} {position start goal : Position α}
    {currentYaw targetYaw : α} {cross after : CrossTrack α} {published : Output α}
    (followed : publishPositionSetpointTrajectory config now position currentYaw start goal targetYaw cross =
      .ok (after, published)) : published.isSetpoint = true := by
  unfold publishPositionSetpointTrajectory at followed
  dsimp only at followed
  split at followed
  · cases followed; rfl
  · cases elapsed : now.sub cross.lastCrossTime with
    | error fault => rw [elapsed] at followed; cases followed
    | ok span => rw [elapsed] at followed; cases followed; rfl

theorem tiltLand_publishes (config : Config α) (position : Position α) (currentYaw : α) (tilt : TiltStage)
    (high : 0.08 ≤ position.z) : ∃ setpoint, (tiltLand config position currentYaw tilt).2.2 = [setpoint] ∧
      setpoint.isSetpoint = true := by
  simp only [tiltLand, not_lt.mpr high, if_false]
  split <;> exact ⟨_, rfl, rfl⟩

theorem requests_tiltLand (config : Config α) (position : Position α) (currentYaw : α) (tilt : TiltStage)
    (high : 0.08 ≤ position.z) : requests (tiltLand config position currentYaw tilt).2.2 = [] := by
  obtain ⟨setpoint, published, isSetpoint⟩ := tiltLand_publishes config position currentYaw tilt high
  rw [published, requests_setpoint isSetpoint, requests_nil]

theorem Checked.unsteered {config : Config α} {services : Services} {node after : TaskController α}
    {sent : List (Output α)} (check : Checked config services node after sent) : setpoints sent = [] := by
  cases check with
  | emergency => unfold autoLand; split <;> rfl
  | idle | offboard | arm | depart | climb | turn => rfl

/-! Steps -/

/-- A step of the node. Messages and answers only touch the base controller. -/
inductive Stepped (config : Config α) (world : World α) :
    Event α → World α → List (Output α) → Prop where
  | tick (services : Services) (readings : Readings) {outcome : Outcome α}
      (ran : timerCallback config services readings world.node = outcome)
      (ticked : Ticked config services readings world.node outcome) :
      Stepped config world (.tick services readings)
        ⟨outcome.node, world.pending ++ requests outcome.outputs, outcome.fault⟩ outcome.outputs
  | response (request : Request) (answer : Response) (waiting : request ∈ world.pending) :
      Stepped config world (.response request answer)
        ⟨{ world.node with toBaseController := answered request answer world.node.toBaseController },
          world.pending.erase request, none⟩ []
  | message (event : Event α) (quiet : event.isTick = false)
      (unasked : ∀ request answer, event ≠ .response request answer) :
      Stepped config world event
        ⟨{ world.node with toBaseController := received config world.node.toBaseController event },
          world.pending, none⟩ []

theorem stepped_cases {config : Config α} {world after : World α} {event : Event α} {outputs : List (Output α)}
    (taken : (offbNode config).step world event = some (after, outputs)) :
    world.fault = none ∧ Stepped config world event after outputs := by
  simp only [offbNode, step] at taken
  split at taken
  · cases taken
  next alive =>
    refine ⟨by simpa using alive, ?_⟩
    cases event with
    | tick services readings =>
      cases taken
      exact .tick services readings rfl (ticked_cases config services readings world.node)
    | response request answer =>
      dsimp only at taken
      split at taken
      next waiting => cases taken; exact .response request answer waiting
      next => cases taken
    | vehicleState | localPosition | launch | task =>
      cases taken
      exact .message _ rfl (fun _ _ same => by cases same)

theorem step_tick (config : Config α) {world : World α} (services : Services) (readings : Readings)
    (alive : world.fault = none) :
    (offbNode config).step world (.tick services readings) =
      some (⟨(timerCallback config services readings world.node).node,
        world.pending ++ requests (timerCallback config services readings world.node).outputs,
        (timerCallback config services readings world.node).fault⟩,
        (timerCallback config services readings world.node).outputs) := by
  simp [offbNode, step, alive]

omit [Arithmetic α] in
theorem isTick_iff {event : Event α} :
    event.isTick = true ↔ ∃ services readings, event = .tick services readings := by
  cases event <;> simp [Event.isTick]

theorem path_alive {config : Config α} {start final : World α} {history : History α}
    (path : (offbNode config).Path start history final) (alive : final.fault = none) : start.fault = none :=
  path.relates (fun start final => final.fault = none → start.fault = none) (fun _ alive => alive)
    (fun first last alive => first (last alive)) (fun _ _ taken _ => (stepped_cases taken).1) alive

/-- A `land()` tick that sees the vehicle disarmed. -/
def LandSawDisarmed (config : Config α) (world : World α) (event : Event α) : Prop :=
  ∃ services readings, event = .tick services readings ∧ world.node.setpointReady = true ∧
    (checked config services world.node).flightState = .land ∧ world.node.currentState.armed = false

/-- The move a step makes on the guard of a request. -/
structure Moved (config : Config α) (request : Request) (world : World α) (event : Event α)
    (after : World α) (outputs : List (Output α)) (move : RequestGuard.Move) : Prop where
  step : (guarding request world).Step move (guarding request after)
  sends : (requests outputs).count request = if move = .send then 1 else 0
  settles : move = .settle → ∃ answer, event = .response request answer ∧ (request = .disarm → answer ≠ .success)
  retains : move = .retain → request = .disarm
  drops : move = .drop → request = .disarm ∧ LandSawDisarmed config world event

end FlightStack.Proofs
