import FlightStack.BaseController
import FlightStack.Library.Machine

/-! The hover interface of `offboard::BaseController`: a target to fly to, to hold,
and to give up when its time is over or its condition is met. What the closure of
an exit condition reads is an environment, given anew to every update. -/

namespace FlightStack
variable {α ι : Type} [Arithmetic α]

inductive HoverState where
  | idle
  | positioning
  | hovering
  | completed
  deriving DecidableEq, Repr

structure HoverConfig (α ι : Type) where
  x : α
  y : α
  z : α
  yaw : α
  duration : α
  positionTolerance : α
  yawTolerance : α
  useCurrentPosition : Bool
  exitCondition : Option (ι → Bool)

/-- `HoverConfig()` -/
def HoverConfig.construct : HoverConfig α ι where
  x := 0
  y := 0
  z := 0
  yaw := 0
  duration := -1
  positionTolerance := 0.05
  yawTolerance := 0.05
  useCurrentPosition := true
  exitCondition := none

/-- The controller with the members of its hover interface. -/
structure HoverController (α ι : Type) extends BaseController α where
  hoverState : HoverState
  hoverConfig : HoverConfig α ι
  hoverStartTime : Time

namespace HoverController
open BaseController

def construct (config : Config α) : HoverController α ι where
  toBaseController := .initial config
  hoverState := .idle
  hoverConfig := .construct
  hoverStartTime := {}

def shortestAngularDistance (start goal : α) : α := wrapUp (wrapDown (goal - start))

def resetHoverState (node : HoverController α ι) : HoverController α ι :=
  { node with hoverState := .idle, hoverConfig := .construct }

/-- The yaw error is wrapped at most once in each direction. -/
def checkHoverPositionReached (node : HoverController α ι) : Bool :=
  let dx := node.localPosition.position.x - node.hoverConfig.x
  let dy := node.localPosition.position.y - node.hoverConfig.y
  let dz := node.localPosition.position.z - node.hoverConfig.z
  let positionError := sqrt (dx * dx + dy * dy + dz * dz)
  let dyaw := node.currentYaw - node.hoverConfig.yaw
  let dyaw := if pi < dyaw then dyaw - 2 * pi else dyaw
  let dyaw := if dyaw < -pi then dyaw + 2 * pi else dyaw
  let yawError := |dyaw|
  decide (positionError < node.hoverConfig.positionTolerance) && decide (yawError < node.hoverConfig.yawTolerance)

def checkHoverExitConditions (now : Time) (environment : ι) (node : HoverController α ι) : Except Fault Bool := do
  if 0 < node.hoverConfig.duration then
    let elapsedTime : α := seconds (← now.sub node.hoverStartTime)
    if node.hoverConfig.duration ≤ elapsedTime then
      return true
  match node.hoverConfig.exitCondition with
  | some exitCondition => return exitCondition environment
  | none => return false

def stopHover (node : HoverController α ι) : HoverController α ι :=
  if node.hoverState ≠ .idle then node.resetHoverState else node

def startHover (config : HoverConfig α ι) (now : Time) (node : HoverController α ι) :
    HoverController α ι × Bool :=
  let node := if node.hoverState ≠ .idle then node.stopHover else node
  let hoverConfig := if config.useCurrentPosition then
      { config with
        x := node.localPosition.position.x
        y := node.localPosition.position.y
        z := node.localPosition.position.z
        yaw := node.currentYaw }
    else config
  let node := { node with hoverConfig }
  if node.checkHoverPositionReached then
    ({ node with hoverState := .hovering, hoverStartTime := now }, true)
  else
    ({ node with hoverState := .positioning }, true)

/-- `start_hover(double)` -/
def startHoverFor (duration : α) : Time → HoverController α ι → HoverController α ι × Bool :=
  startHover { (.construct : HoverConfig α ι) with useCurrentPosition := true, duration }

def startHoverAtPosition (x y z yaw duration : α) : Time → HoverController α ι → HoverController α ι × Bool :=
  startHover { (.construct : HoverConfig α ι) with x, y, z, yaw, duration, useCurrentPosition := false }

/-- A `std::function` may be empty. -/
def startHoverWithCondition (exitCondition : Option (ι → Bool)) :
    Time → HoverController α ι → HoverController α ι × Bool :=
  startHover { (.construct : HoverConfig α ι) with useCurrentPosition := true, duration := -1, exitCondition }

def updateHover (now : Time) (environment : ι) (node : HoverController α ι) :
    Except Fault (HoverController α ι × List (Output α) × Bool) := do
  let target := node.hoverConfig
  match node.hoverState with
  | .idle => return (node, [], true)
  | .positioning =>
    let setpoint := publishPositionSetpoint target.x target.y target.z target.yaw
    if node.checkHoverPositionReached then
      return ({ node with hoverState := .hovering, hoverStartTime := now }, [setpoint], false)
    return (node, [setpoint], false)
  | .hovering =>
    let setpoint := publishPositionSetpoint target.x target.y target.z target.yaw
    if ← node.checkHoverExitConditions now environment then
      return ({ node with hoverState := .completed }, [setpoint], true)
    return (node, [setpoint], false)
  | .completed => return (node.resetHoverState, [], true)

end HoverController

/-- The calls of a task on its hover interface, with what the clock reads in them,
and the messages that move the vehicle in between. -/
inductive HoverCall (α ι : Type) where
  | startHover (config : HoverConfig α ι) (reading : Int)
  | startHoverFor (duration : α) (reading : Int)
  | startHoverAtPosition (x y z yaw duration : α) (reading : Int)
  | startHoverWithCondition (exitCondition : Option (ι → Bool)) (reading : Int)
  | stopHover
  | updateHover (reading : Int) (environment : ι)
  | localPosition (message : Pose α)

/-- A call that throws has no step. -/
def hoverMachine (config : Config α) : Machine (HoverController α ι) (HoverCall α ι) (Output α) where
  initial := .construct config
  step node call := match call with
    | .startHover asked reading => some ((node.startHover asked (.now reading)).1, [])
    | .startHoverFor duration reading => some ((node.startHoverFor duration (.now reading)).1, [])
    | .startHoverAtPosition x y z yaw duration reading =>
      some ((node.startHoverAtPosition x y z yaw duration (.now reading)).1, [])
    | .startHoverWithCondition exitCondition reading =>
      some ((node.startHoverWithCondition exitCondition (.now reading)).1, [])
    | .stopHover => some (node.stopHover, [])
    | .updateHover reading environment =>
      match node.updateHover (.now reading) environment with
      | .ok (after, sent, _) => some (after, sent)
      | .error _ => none
    | .localPosition message =>
      some ({ node with
        toBaseController := BaseController.localPositionCallback config message node.toBaseController }, [])

end FlightStack
