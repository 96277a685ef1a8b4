import FlightStack.Library.Machine
import FlightStack.TaskController

/-! The running `offb_node`. Callbacks run one at a time; between them the
executor may deliver any message, tick the timer, or answer any request that is
still unanswered, each request once. Time-outs and losses are answers that never
come. -/

namespace FlightStack
variable {α : Type} [Arithmetic α]

inductive Event (α : Type) where
  | tick (services : Services) (readings : Readings)
  | vehicleState (message : VehicleState)
  | localPosition (message : Pose α)
  | launch (data : Bool)
  | task (data : Int)
  | response (request : Request) (answer : Response)

def Event.isTick : Event α → Bool
  | .tick .. => true
  | _ => false

structure World (α : Type) where
  node : TaskController α
  /-- Requests sent and not yet answered. -/
  pending : List Request
  /-- What ended the node, if something did. -/
  fault : Option Fault

namespace OffbNode
open BaseController TaskController

def answered (request : Request) (answer : Response) (base : BaseController α) : BaseController α :=
  match request with
  | .offboard => setModeCallback answer base
  | .autoLand => autoLandCallback answer base
  | .arm => armCallback answer base
  | .disarm => disarmCallback answer base

def received (config : Config α) (base : BaseController α) : Event α → BaseController α
  | .vehicleState message => vehicleStateCallback message base
  | .localPosition message => localPositionCallback config message base
  | .launch data => launchCallback data base
  | .task data => taskCallback data base
  | .response request answer => answered request answer base
  | .tick .. => base

def step (config : Config α) (world : World α) (event : Event α) : Option (World α × List (Output α)) :=
  if world.fault.isSome then none
  else match event with
  | .tick services readings =>
    let outcome := timerCallback config services readings world.node
    some (⟨outcome.node, world.pending ++ requests outcome.outputs, outcome.fault⟩, outcome.outputs)
  | .response request _ =>
    if request ∈ world.pending then
      some (⟨{ world.node with toBaseController := received config world.node.toBaseController event },
        world.pending.erase request, none⟩, [])
    else none
  | _ =>
    some (⟨{ world.node with toBaseController := received config world.node.toBaseController event },
      world.pending, none⟩, [])

end OffbNode

def offbNode (config : Config α) : Machine (World α) (Event α) (Output α) where
  initial := ⟨TaskController.initial config, [], none⟩
  step := OffbNode.step config

abbrev History (α : Type) := List (Entry (World α) (Event α) (Output α))

end FlightStack
