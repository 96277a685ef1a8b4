import FlightStack.Mission
import FlightStack.Proofs.NodeStep

/-! The node refines the mission. Every step of the node is at most two moves of
the mission, one for the check of the tick and one for its flight, and each move
is allowed by what that tick saw. -/

namespace FlightStack.Proofs
open BaseController TaskController OffbNode Mission
variable {α : Type} [Arithmetic α]

def stage (node : TaskController α) : Stage := ⟨node.flightState, node.currentWaypointIndex⟩

/-- What a tick that sees `node` must see before it may make a move. -/
def Gate (config : Config α) (services : Services) (node : TaskController α) : Move → Prop
  | .depart => node.flightState = .init ∧ Inside node.localPosition.position ∧ node.launchFlag = true ∧
      node.currentState.mode = "OFFBOARD" ∧ node.currentState.armed = true
  | .climb => node.flightState = .takeoff ∧ Inside node.localPosition.position ∧
      |node.localPosition.position.z - config.takeoffHeight| ≤ config.waypointThreshold
  | .visit => (checked config services node).flightState = .waypoint ∧
      ∃ current, config.waypoints[node.currentWaypointIndex]? = some current ∧
        distanceToTarget node.localPosition.position current.x current.y current.z < config.waypointThreshold
  | .turn => node.flightState = .waypoint ∧ Inside node.localPosition.position
  | .touch => (checked config services node).flightState = .tiltland ∧ node.localPosition.position.z < 0.08

/-- Only ticks after the warm-up make moves. -/
def Allows (config : Config α) (world : World α) (event : Event α) (move : Move) : Prop :=
  ∃ services readings, event = .tick services readings ∧ world.node.setpointReady = true ∧
    Gate config services world.node move

variable {config : Config α} {services : Services} {readings : Readings} {node : TaskController α}

private theorem one_move {count : Nat} {before after : Stage} {move : Move} {allowed : Move → Prop}
    (effect : Effect count before move after) (gate : allowed move) :
    ∃ moves, (mission count).Path before moves after ∧ ∀ entry ∈ moves, allowed entry.event :=
  ⟨_, .snoc .refl effect.taken, by simpa using gate⟩

private theorem no_move {count : Nat} {before : Stage} {allowed : Move → Prop} :
    ∃ moves, (mission count).Path before moves before ∧ ∀ entry ∈ moves, allowed entry.event :=
  ⟨[], .refl, by simp⟩

theorem Checked.moves {after : TaskController α} {sent : List (Output α)}
    (check : Checked config services node after sent) :
    ∃ moves, (mission config.waypoints.length).Path (stage node) moves (stage after) ∧
      ∀ move ∈ moves, Gate config services node move.event := by
  cases check with
  | emergency | idle | offboard | arm => exact no_move
  | depart inside state launched mode armed =>
    refine one_move ?_ (show Gate config services node .depart from ⟨state, inside, launched, mode, armed⟩)
    simp only [stage, state]
    exact .depart _
  | climb inside state level =>
    refine one_move ?_ (show Gate config services node .climb from ⟨state, inside, level⟩)
    simp only [stage, state]
    exact .climb _
  | turn inside state finished =>
    refine one_move ?_ (show Gate config services node .turn from ⟨state, inside⟩)
    simp only [stage, state]
    exact .turn _ finished

theorem Flown.moves {outcome : Outcome α} {after : TaskController α} {sent : List (Output α)}
    (check : Checked config services node after sent) (same : after = checked config services node)
    (flight : Flown config services readings after outcome) :
    ∃ moves, (mission config.waypoints.length).Path (stage after) moves (stage outcome.node) ∧
      ∀ move ∈ moves, Gate config services node move.event := by
  obtain ⟨position, index, _⟩ := check.frame
  cases flight with
  | hold | climb | finished | fault | steer | tilt | descend | disarm | disarmed | approach => exact no_move
  | @arrive current start stuck cross published state steered near =>
    have left := (List.getElem?_eq_some_iff.mp steered.found).1
    refine one_move ?_ (show Gate config services node .visit from ⟨same ▸ state, current, index ▸ steered.found, ?_⟩)
    · simp only [stage, state]
      exact .visit _ left
    · rw [← position]
      simpa [isAtPoint] using near
  | touch state low =>
    refine one_move ?_ (show Gate config services node .touch from ⟨same ▸ state, position ▸ low⟩)
    simp only [stage, state]
    exact .touch _

theorem refines (config : Config α) : (offbNode config).Refines (mission config.waypoints.length)
    (fun world => stage world.node) (Allows config) := by
  refine ⟨rfl, ?_⟩
  intro before event after outputs taken
  obtain ⟨_, stepped⟩ := stepped_cases taken
  cases stepped with
  | response request answer =>
    have frame := (received_frame config before.node.toBaseController (.response request answer)).1
    simp only [received] at frame
    simp only [stage, frame]
    exact no_move
  | message _ quiet unasked =>
    simp only [stage, (received_frame config before.node.toBaseController event).1]
    exact no_move
  | tick services readings ran ticked =>
    cases ticked with
    | warm => exact no_move
    | flew ready check flight =>
      obtain ⟨first, checking, gates⟩ := check.moves
      obtain ⟨rest, flying, more⟩ := flight.moves check rfl
      refine ⟨first ++ rest, checking.append flying, fun move member => ⟨services, readings, rfl, ready, ?_⟩⟩
      exact (List.mem_append.mp member).elim (gates move) (more move)

theorem stage_sound {history : History α} {world : World α} (run : (offbNode config).Run history world) :
    Sound config.waypoints.length (stage world.node) := by
  obtain ⟨moves, matched⟩ := (refines config).run run
  exact sound matched

theorem path_road {history : History α} {before after : World α} (path : (offbNode config).Path before history after) :
    Relation.ReflTransGen Road before.node.flightState after.node.flightState := by
  obtain ⟨moves, matched⟩ := (refines config).path path
  exact mission_road matched

theorem path_visited {history : History α} {before after : World α}
    (path : (offbNode config).Path before history after) :
    before.node.currentWaypointIndex ≤ after.node.currentWaypointIndex := by
  obtain ⟨moves, matched⟩ := (refines config).path path
  exact mission_visited matched

end FlightStack.Proofs
