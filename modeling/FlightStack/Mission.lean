import FlightStack.BaseController
import FlightStack.Library.Machine
import Mathlib.Logic.Relation

/-! What a flight is for: leave the ground, visit the waypoints in order, turn to
the landing point and touch down. Setpoints, services, flags and clocks are not
part of it; the node is compared with it in `Proofs.MissionRefinement`. -/

namespace FlightStack

structure Stage where
  state : FlightState
  visited : Nat
  deriving DecidableEq, Repr

namespace Mission

inductive Move where
  | depart
  | climb
  | visit
  | turn
  | touch
  deriving DecidableEq, Repr

def step (count : Nat) (stage : Stage) (move : Move) : Option (Stage × List Empty) :=
  match stage.state, move with
  | .init, .depart => some ({ stage with state := .takeoff }, [])
  | .takeoff, .climb => some ({ stage with state := .waypoint }, [])
  | .waypoint, .visit => if stage.visited < count then some ({ stage with visited := stage.visited + 1 }, []) else none
  | .waypoint, .turn => if stage.visited < count then none else some ({ stage with state := .tiltland }, [])
  | .tiltland, .touch => some ({ stage with state := .land }, [])
  | _, _ => none

end Mission

def mission (count : Nat) : Machine Stage Mission.Move Empty where
  initial := ⟨.init, 0⟩
  step := Mission.step count

namespace Mission
variable {count : Nat}

/-- The one-way road of the flight states. -/
inductive Road : FlightState → FlightState → Prop where
  | depart : Road .init .takeoff
  | climb : Road .takeoff .waypoint
  | turn : Road .waypoint .tiltland
  | touch : Road .tiltland .land

/-- The numbers of the states, `static_cast<int>(flight_state_)`. -/
def number : FlightState → Nat
  | .init => 0
  | .takeoff => 1
  | .waypoint => 2
  | .approach => 3
  | .tiltland => 4
  | .land => 5

inductive Effect (count : Nat) : Stage → Move → Stage → Prop where
  | depart (visited : Nat) : Effect count ⟨.init, visited⟩ .depart ⟨.takeoff, visited⟩
  | climb (visited : Nat) : Effect count ⟨.takeoff, visited⟩ .climb ⟨.waypoint, visited⟩
  | visit (visited : Nat) (left : visited < count) :
      Effect count ⟨.waypoint, visited⟩ .visit ⟨.waypoint, visited + 1⟩
  | turn (visited : Nat) (finished : count ≤ visited) :
      Effect count ⟨.waypoint, visited⟩ .turn ⟨.tiltland, visited⟩
  | touch (visited : Nat) : Effect count ⟨.tiltland, visited⟩ .touch ⟨.land, visited⟩

variable {before after : Stage} {move : Move} {outputs : List Empty}

theorem effect_cases (taken : (mission count).step before move = some (after, outputs)) :
    Effect count before move after := by
  rcases before with ⟨state, visited⟩
  simp only [mission, step] at taken
  split at taken
  case h_3 =>
    split at taken
    next left => cases taken; exact .visit visited left
    next => cases taken
  case h_4 =>
    split at taken
    next => cases taken
    next finished => cases taken; exact .turn visited (Nat.le_of_not_lt finished)
  all_goals cases taken
  · exact .depart visited
  · exact .climb visited
  · exact .touch visited

theorem Effect.taken (effect : Effect count before move after) :
    (mission count).step before move = some (after, []) := by
  cases effect with
  | depart | climb | touch => rfl
  | visit visited left => simp [mission, step, left]
  | turn visited finished => simp [mission, step, Nat.not_lt.mpr finished]

theorem Effect.road (effect : Effect count before move after) :
    Relation.ReflGen Road before.state after.state := by
  cases effect with
  | depart => exact .single .depart
  | climb => exact .single .climb
  | visit => exact .refl
  | turn => exact .single .turn
  | touch => exact .single .touch

theorem mission_road {moves : List (Entry Stage Move Empty)} (path : (mission count).Path before moves after) :
    Relation.ReflTransGen Road before.state after.state := by
  apply path.relates (fun first last => Relation.ReflTransGen Road first.state last.state)
    (fun _ => .refl) (fun first last => Relation.ReflTransGen.trans first last)
  exact fun entry _ taken => (effect_cases taken).road.to_reflTransGen

theorem road_number {first last : FlightState} (road : Relation.ReflTransGen Road first last) :
    number first ≤ number last := by
  induction road with
  | refl => exact Nat.le_refl _
  | tail _ edge ih => exact Nat.le_trans ih (by cases edge <;> decide)

/-- The numbers of the visits and the states agree along every flight. -/
structure Sound (count : Nat) (stage : Stage) : Prop where
  bounded : stage.visited ≤ count
  grounded : number stage.state ≤ 1 → stage.visited = 0
  finished : 2 < number stage.state → stage.visited = count
  onRoad : stage.state ≠ .approach

theorem Effect.sound (effect : Effect count before move after) (sound : Sound count before) :
    Sound count after := by
  obtain ⟨bounded, grounded, finished, onRoad⟩ := sound
  cases effect with
  | depart visited | climb visited => exact ⟨bounded, fun _ => grounded (by simp [number]), by simp [number], by simp⟩
  | visit visited left => exact ⟨left, by simp [number], by simp [number], by simp⟩
  | turn visited done => exact ⟨bounded, by simp [number], fun _ => Nat.le_antisymm bounded done, by simp⟩
  | touch visited => exact ⟨bounded, by simp [number], fun _ => finished (by simp [number]), by simp⟩

theorem sound {moves : List (Entry Stage Move Empty)} (run : (mission count).Run moves after) : Sound count after := by
  apply run.invariant (Sound count) ⟨Nat.zero_le _, fun _ => rfl, by simp [mission, number], by simp [mission]⟩
  exact fun taken sound => (effect_cases taken).sound sound

theorem Effect.visited (effect : Effect count before move after) : before.visited ≤ after.visited := by
  cases effect <;> simp

theorem mission_visited {moves : List (Entry Stage Move Empty)} (path : (mission count).Path before moves after) :
    before.visited ≤ after.visited := by
  apply path.relates (fun first last => first.visited ≤ last.visited)
    (fun _ => Nat.le_refl _) (fun first last => Nat.le_trans first last)
  exact fun entry _ taken => (effect_cases taken).visited

/-! The only moves that pass a state -/

theorem passes_init (taken : (mission count).step before move = some (after, outputs))
    (behind : ¬ 0 < number before.state) (past : 0 < number after.state) : move = .depart := by
  cases effect_cases taken <;> simp_all [number]

theorem passes_takeoff (taken : (mission count).step before move = some (after, outputs))
    (behind : ¬ 1 < number before.state) (past : 1 < number after.state) : move = .climb := by
  cases effect_cases taken <;> simp_all [number]

theorem passes_tiltland (taken : (mission count).step before move = some (after, outputs))
    (behind : ¬ 4 < number before.state) (past : 4 < number after.state) : move = .touch := by
  cases effect_cases taken <;> simp_all [number]

end Mission
end FlightStack
