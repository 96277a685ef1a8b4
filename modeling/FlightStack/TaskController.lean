import FlightStack.BaseController

/-! `offboard::TaskController`: the mission that runs on every tick of the timer.
The tick checks for a change of flight state first and then flies the state it
finds, so one tick can leave a state in two places. -/

namespace FlightStack
variable {α : Type} [Arithmetic α]

/-- The members behind `check_position_stuck_protection`. -/
structure StuckDetection (α : Type) where
  lastPositionTime : Time
  lastPositionX : α
  lastPositionY : α
  lastPositionZ : α
  positionStuckDetected : Bool
  stuckDetectionTime : Time
  ignoreTargetUntil : Time
  ignoringTargets : Bool

/-- None of the times is set by the constructor. -/
def StuckDetection.initial : StuckDetection α := ⟨{}, 0, 0, 0, false, {}, {}, false⟩

/-- The function-local statics of `tilt_land`. -/
structure TiltStage where
  stage1Completed : Bool := false
  stage1Started : Bool := false
  deriving DecidableEq, Repr

structure TaskController (α : Type) extends BaseController α where
  stuck : StuckDetection α
  currentWaypointIndex : Nat
  setpointReady : Bool
  offboardSetpointCounter : Nat
  tilt : TiltStage

/-- The clock readings one tick takes: in the stuck check, in the segment
follower, and when the stuck detection is reset. -/
structure Readings where
  stuck : Int
  cross : Int
  reset : Int
  deriving DecidableEq, Repr

/-- What a tick leaves behind. After a fault the node is gone; the outputs are
the ones it had sent by then. -/
structure Outcome (α : Type) where
  node : TaskController α
  outputs : List (Output α)
  fault : Option Fault := none

namespace TaskController
open BaseController

def waypointGenerate (takeoffHeight : α) : List (Waypoint α) :=
  [⟨⟨2, 0, takeoffHeight⟩, 0⟩, ⟨⟨2, -2, takeoffHeight⟩, 0⟩, ⟨⟨0, -2, takeoffHeight⟩, 0⟩]

/-- The constructor, from the values of the ROS parameters. -/
def construct (maxAngularVelocity takeoffHeight waypointThreshold : α) (startTime : Int)
    (getRPY : Quaternion α → α × α × α) : Config α where
  maxAngularVelocity
  takeoffHeight
  waypointThreshold
  waypoints := waypointGenerate takeoffHeight
  startTime
  getRPY

def constructDefault (startTime : Int) (getRPY : Quaternion α → α × α × α) : Config α :=
  construct 0.5 1 0.1 startTime getRPY

def initial (config : Config α) : TaskController α where
  toBaseController := BaseController.initial config
  stuck := .initial
  currentWaypointIndex := 0
  setpointReady := false
  offboardSetpointCounter := 0
  tilt := {}

def switchTask (state : FlightState) (node : TaskController α) : TaskController α :=
  if state = node.flightState then node else { node with flightState := state }

/-- In the source a coordinate that is not a number passes for inside, as no comparison
with it holds. A `Position` here has none. -/
def checkEmergencyCondition (position : Position α) : Bool :=
  7 ≤ |position.x| || 7 ≤ |position.y| || 2.5 ≤ |position.z|

/-- The result says whether a change was made. Its only caller drops it. -/
def checkTaskSwitchConditions (config : Config α) (services : Services) (node : TaskController α) :
    Bool × TaskController α × List (Output α) :=
  let position := node.localPosition.position
  if checkEmergencyCondition position then (true, node, autoLand services)
  else match node.flightState with
  | .init =>
    if node.launchFlag = false then (false, node, [])
    else if node.currentState.mode ≠ "OFFBOARD" then
      if node.applyOffboardFlag then (false, node, [])
      else
        let (base, sent) := engageOffboardMode services node.toBaseController
        (false, { node with toBaseController := base }, sent)
    else if node.currentState.armed = false then
      if node.applyArmFlag then (false, node, [])
      else
        let (base, sent) := arm services node.toBaseController
        (false, { node with toBaseController := base }, sent)
    else (true, switchTask .takeoff node, [])
  | .takeoff =>
    if |position.z - config.takeoffHeight| ≤ config.waypointThreshold then (true, switchTask .waypoint node, [])
    else (false, node, [])
  | .waypoint =>
    if config.waypoints.length ≤ node.currentWaypointIndex then (true, switchTask .tiltland node, [])
    else (false, node, [])
  | .tiltland | .approach | .land => (false, node, [])

/-- The first part of `check_position_stuck_protection`: a move beyond the
threshold starts a new reference, eight seconds without one raise the alarm. A position
that is not a number, which is left out here, would count as no move. -/
def trackMovement (threshold : α) (now : Time) (position : Position α) (stuck : StuckDetection α) :
    Except Fault (StuckDetection α) :=
  let positionChange := sqrt ((position.x - stuck.lastPositionX) ^ 2 +
    (position.y - stuck.lastPositionY) ^ 2 + (position.z - stuck.lastPositionZ) ^ 2)
  if threshold < positionChange then
    .ok { stuck with
      lastPositionTime := now, lastPositionX := position.x, lastPositionY := position.y,
      lastPositionZ := position.z, positionStuckDetected := false }
  else do
    let stuckDuration ← now.sub stuck.lastPositionTime
    return if !stuck.positionStuckDetected && 8 ≤ (seconds stuckDuration : α) then
      { stuck with
        positionStuckDetected := true, stuckDetectionTime := now,
        ignoreTargetUntil := now.add 1000000000, ignoringTargets := true }
    else stuck

/-- The second part: the window in which targets are ignored closes. -/
def closeIgnoreWindow (now : Time) (stuck : StuckDetection α) : Except Fault (StuckDetection α) :=
  if stuck.ignoringTargets then do
    let ended ← now.ge stuck.ignoreTargetUntil
    return if ended then { stuck with ignoringTargets := false } else stuck
  else .ok stuck

/-- The third part only writes to the log, but its subtractions can throw. -/
def logStuck (now : Time) (stuck : StuckDetection α) : Except Fault Unit :=
  if stuck.positionStuckDetected then do
    let _ ← now.sub stuck.stuckDetectionTime
    let _ ← stuck.ignoreTargetUntil.sub now
    return ()
  else .ok ()

def checkPositionStuckProtection (threshold : α) (now : Time) (position : Position α)
    (stuck : StuckDetection α) : Except Fault (StuckDetection α) := do
  let tracked ← trackMovement threshold now position stuck
  let windowed ← closeIgnoreWindow now tracked
  logStuck now windowed
  return windowed

def resetPositionStuckDetection (now : Time) (position : Position α) (stuck : StuckDetection α) :
    StuckDetection α :=
  { stuck with
    positionStuckDetected := false, ignoringTargets := false, lastPositionTime := now,
    lastPositionX := position.x, lastPositionY := position.y, lastPositionZ := position.z }

def isAtPoint (config : Config α) (position : Position α) (x y z : α) : Bool :=
  distanceToTarget position x y z < config.waypointThreshold

/-- `waypoints_[index]` -/
def waypointAt (config : Config α) (index : Nat) : Except Fault (Waypoint α) :=
  match config.waypoints[index]? with
  | some waypoint => .ok waypoint
  | none => .error (.access index)

def segmentStart (config : Config α) (index : Nat) : Except Fault (Position α) :=
  if index = 0 then .ok ⟨0, 0, config.takeoffHeight⟩
  else do
    let previous ← waypointAt config (index - 1)
    return previous.toPosition

def executeWaypointMission (config : Config α) (readings : Readings) (node : TaskController α) :
    Except Fault (TaskController α × List (Output α)) := do
  if config.waypoints.length ≤ node.currentWaypointIndex then
    return (node, [])
  let position := node.localPosition.position
  let current ← waypointAt config node.currentWaypointIndex
  let stuck ← checkPositionStuckProtection config.waypointThreshold (.now readings.stuck) position node.stuck
  let start ← segmentStart config node.currentWaypointIndex
  let (cross, published) ← publishPositionSetpointTrajectory config (.now readings.cross) position
    node.currentYaw start current.toPosition current.yaw node.cross
  if isAtPoint config position current.x current.y current.z then
    return ({ node with
      cross, stuck := resetPositionStuckDetection (.now readings.reset) position stuck,
      currentWaypointIndex := node.currentWaypointIndex + 1 }, [published])
  else
    return ({ node with cross, stuck }, [published])

/-- The target is the origin. The result is true once the vehicle is below 8 cm. An
altitude that is not a number, which is left out here, would count as above, and the
distance from it as near the line. -/
def tiltLand (config : Config α) (position : Position α) (currentYaw : α) (tilt : TiltStage) :
    Bool × TiltStage × List (Output α) :=
  let targetX : α := 0
  let targetY : α := 0
  let horizontalDistance := sqrt ((position.x - targetX) ^ 2 + (position.y - targetY) ^ 2)
  let idealHorizontalDistance := position.z
  if position.z < 0.08 then (true, { stage1Completed := false, stage1Started := false }, [])
  else if !tilt.stage1Completed &&
      (!tilt.stage1Started || 0.05 < |horizontalDistance - idealHorizontalDistance|) then
    -- stage 1: to the start of the 45 degree line, at the present altitude
    let (moveX, moveY) :=
      if 0.1 < horizontalDistance then
        ((targetX - position.x) / horizontalDistance, (targetY - position.y) / horizontalDistance)
      else (1, 0)
    (false, { tilt with stage1Started := true },
      [publishPositionSetpoint (targetX - moveX * position.z) (targetY - moveY * position.z) position.z 0])
  else
    -- stage 2: down the line; the branch is also reached by the call that ends stage 1
    let horizontalError := horizontalDistance - idealHorizontalDistance
    let (vx, vy) :=
      if 0.05 < horizontalDistance then
        let speed := min (2 * |horizontalError|) 1
        let (directionX, directionY) :=
          if 0 < horizontalError then
            ((targetX - position.x) / horizontalDistance, (targetY - position.y) / horizontalDistance)
          else ((position.x - targetX) / horizontalDistance, (position.y - targetY) / horizontalDistance)
        let worldX := directionX * speed
        let worldY := directionY * speed
        (worldX * cos (-currentYaw) - worldY * sin (-currentYaw),
          worldX * sin (-currentYaw) + worldY * cos (-currentYaw))
      else (0, 0)
    (false, { tilt with stage1Completed := true }, [publishVelocityBody config vx vy (-0.25) 0])

/-- The `switch (flight_state_)` of `timer_callback`. -/
def flyState (config : Config α) (services : Services) (readings : Readings) (node : TaskController α) :
    Outcome α :=
  let position := node.localPosition.position
  match node.flightState with
  | .init => ⟨node, [publishPositionSetpoint position.x position.y position.z 0], none⟩
  | .takeoff => ⟨node, [publishPositionSetpoint 0 0 config.takeoffHeight 0], none⟩
  | .waypoint =>
    match executeWaypointMission config readings node with
    | .ok (flown, published) => ⟨flown, published, none⟩
    | .error fault => ⟨node, [], some fault⟩
  | .tiltland =>
    let (landed, tilt, published) := tiltLand config position node.currentYaw node.tilt
    let tilted := { node with tilt }
    ⟨if landed then switchTask .land tilted else tilted, published, none⟩
  | .land =>
    let (base, sent) := land config services node.toBaseController
    ⟨{ node with toBaseController := base }, sent, none⟩
  | .approach => ⟨node, [], none⟩

/-- The first 51 ticks only stream the setpoint the autopilot waits for. -/
def timerCallback (config : Config α) (services : Services) (readings : Readings) (node : TaskController α) :
    Outcome α :=
  if node.setpointReady = false then
    let counter := node.offboardSetpointCounter + 1
    ⟨{ node with
        offboardSetpointCounter := counter, setpointReady := if 50 < counter then true else node.setpointReady },
      [publishPositionSetpoint 0 0 0 0], none⟩
  else
    let (_, checked, sent) := checkTaskSwitchConditions config services node
    let flown := flyState config services readings checked
    { flown with outputs := sent ++ taskStatePub checked.toBaseController :: flown.outputs }

end TaskController
end FlightStack
