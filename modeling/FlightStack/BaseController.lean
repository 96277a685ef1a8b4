import FlightStack.Rclcpp

/-! `offboard::BaseController`: the service clients, the callbacks and the
setpoint publishers every flight task builds on. -/

namespace FlightStack
variable {α : Type} [Arithmetic α]

inductive FlightState where
  | init
  | takeoff
  | waypoint
  | approach
  | tiltland
  | land
  deriving DecidableEq, Repr

/-- A row of `waypoints_`: x, y, z and yaw. -/
structure Waypoint (α : Type) extends Position α where
  yaw : α

/-- What is fixed when the node is constructed: its parameters, the waypoints
computed from them, the first clock reading, and `tf2`'s conversion of an
orientation to roll, pitch and yaw. -/
structure Config (α : Type) where
  maxAngularVelocity : α
  takeoffHeight : α
  waypointThreshold : α
  waypoints : List (Waypoint α)
  startTime : Int
  getRPY : Quaternion α → α × α × α

inductive Request where
  /-- `SetMode` with `custom_mode = "OFFBOARD"`, answered to `set_mode_callback` -/
  | offboard
  /-- `SetMode` with `custom_mode = "AUTO.LAND"`, answered to the closure in `auto_land` -/
  | autoLand
  /-- `CommandBool` with `value = true`, answered to `arm_callback` -/
  | arm
  /-- `CommandBool` with `value = false`, answered to the closure in `land` -/
  | disarm
  deriving DecidableEq, Repr

/-- Everything the node sends. Setpoints carry the arguments of their publisher;
the yaw of a position setpoint leaves the node as a quaternion. -/
inductive Output (α : Type) where
  | positionSetpoint (x y z yaw : α)
  | velocitySetpoint (x y z yaw : α)
  | flightInfo (state : String) (taskId : Int)
  | request (sent : Request)

def Output.isSetpoint : Output α → Bool
  | .positionSetpoint .. | .velocitySetpoint .. => true
  | _ => false

def Output.request? : Output α → Option Request
  | .request sent => some sent
  | _ => none

def requests (outputs : List (Output α)) : List Request := outputs.filterMap Output.request?

/-- Which services answer `wait_for_service` or `service_is_ready` in time. -/
structure Services where
  arming : Bool
  setMode : Bool
  deriving DecidableEq, Repr

/-- The cached error of the segment follower. -/
structure CrossTrack (α : Type) where
  lastCrossErrX : α
  lastCrossErrY : α
  lastCrossTime : Time

structure BaseController (α : Type) where
  applyOffboardFlag : Bool
  applyArmFlag : Bool
  applyDisarmFlag : Bool
  flightState : FlightState
  currentState : VehicleState
  localPosition : Pose α
  launchFlag : Bool
  currentTaskId : Int
  currentRoll : α
  currentPitch : α
  currentYaw : α
  cross : CrossTrack α

namespace BaseController

def initial (config : Config α) : BaseController α where
  applyOffboardFlag := false
  applyArmFlag := false
  applyDisarmFlag := false
  flightState := .init
  currentState := {}
  localPosition := ⟨⟨0, 0, 0⟩, ⟨0, 0, 0, 1⟩⟩
  launchFlag := false
  currentTaskId := 1
  currentRoll := 0
  currentPitch := 0
  currentYaw := 0
  cross := ⟨0, 0, .now config.startTime⟩

/-! Setpoints -/

def publishPositionSetpoint (x y z yaw : α) : Output α := .positionSetpoint x y z yaw

/-- Only the yaw rate is limited; the linear limit is commented out. -/
def publishVelocityBody (config : Config α) (x y z yaw : α) : Output α :=
  .velocitySetpoint x y z (clamp yaw (-config.maxAngularVelocity) config.maxAngularVelocity)

def distanceToTarget (position : Position α) (x y z : α) : α :=
  let dx := position.x - x
  let dy := position.y - y
  let dz := position.z - z
  sqrt (dx * dx + dy * dy + dz * dz)

/-- The PD follower of the segment from `start` to `goal`. A segment that is too
short for a direction is replaced by its end point. -/
def publishPositionSetpointTrajectory (config : Config α) (now : Time) (position : Position α)
    (currentYaw : α) (start goal : Position α) (targetYaw : α) (cross : CrossTrack α) :
    Except Fault (CrossTrack α × Output α) := do
  let dx := goal.x - start.x
  let dy := goal.y - start.y
  let dz := goal.z - start.z
  let length := sqrt (dx * dx + dy * dy + dz * dz)
  if length < 1e-6 then
    return (cross, publishPositionSetpoint goal.x goal.y goal.z targetYaw)
  let directionX := dx / length
  let directionY := dy / length
  let directionZ := dz / length
  let relX := position.x - start.x
  let relY := position.y - start.y
  let relZ := position.z - start.z
  let alongTrackDistance := clamp (relX * directionX + relY * directionY + relZ * directionZ) 0 length
  let closestX := start.x + alongTrackDistance * directionX
  let closestY := start.y + alongTrackDistance * directionY
  let closestZ := start.z + alongTrackDistance * directionZ
  let crossTrackX := position.x - closestX
  let crossTrackY := position.y - closestY
  let crossTrackZ := position.z - closestZ
  let alongTrackError := length - alongTrackDistance
  -- world to body
  let crossErrBodyX := cos currentYaw * crossTrackX + sin currentYaw * crossTrackY
  let crossErrBodyY := -sin currentYaw * crossTrackX + cos currentYaw * crossTrackY
  let alongErrBodyX := cos currentYaw * (directionX * alongTrackError) +
    sin currentYaw * (directionY * alongTrackError)
  let alongErrBodyY := -sin currentYaw * (directionX * alongTrackError) +
    cos currentYaw * (directionY * alongTrackError)
  let elapsed : α := seconds (← now.sub cross.lastCrossTime)
  let dt := if elapsed < 1e-3 then 1e-3 else elapsed
  let dErrX := (crossErrBodyX - cross.lastCrossErrX) / dt
  let dErrY := (crossErrBodyY - cross.lastCrossErrY) / dt
  let vxCross := -(2 * crossErrBodyX + 0.8 * dErrX)
  let vyCross := -(2 * crossErrBodyY + 0.8 * dErrY)
  let vx := vxCross + 1 * alongErrBodyX
  let vy := vyCross + 1 * alongErrBodyY
  let vz := -1 * crossTrackZ
  let dyaw := wrapUp (wrapDown (targetYaw - currentYaw))
  return (⟨crossErrBodyX, crossErrBodyY, now⟩, publishVelocityBody config vx vy vz (1 * dyaw))

/-! Services -/

def arm (services : Services) (base : BaseController α) : BaseController α × List (Output α) :=
  if services.arming then ({ base with applyArmFlag := true }, [.request .arm]) else (base, [])

/-- The flag is `mutable`, so the method is `const` in the source. -/
def engageOffboardMode (services : Services) (base : BaseController α) : BaseController α × List (Output α) :=
  if services.setMode then ({ base with applyOffboardFlag := true }, [.request .offboard]) else (base, [])

def autoLand (services : Services) : List (Output α) :=
  if services.setMode then [.request .autoLand] else []

def land (config : Config α) (services : Services) (base : BaseController α) :
    BaseController α × List (Output α) :=
  if base.currentState.armed then
    let descend := publishVelocityBody config 0 0 (-0.3) 0
    if base.localPosition.position.z < 0.03 then
      if services.arming then
        if base.applyDisarmFlag then (base, [descend])
        else ({ base with applyDisarmFlag := true }, [descend, .request .disarm])
      else (base, [descend])
    else (base, [descend])
  else ({ base with applyDisarmFlag := false }, [publishVelocityBody config 0 0 0 0])

def flightStateToString : FlightState → String
  | .init => "INIT"
  | .takeoff => "TAKEOFF"
  | .waypoint => "WAYPOINT"
  | .tiltland => "TITLELAND"
  | .land => "LAND"
  | .approach => "UNKNOWN"

def taskStatePub (base : BaseController α) : Output α :=
  .flightInfo (flightStateToString base.flightState) base.currentTaskId

/-! Callbacks -/

def armCallback (_answer : Response) (base : BaseController α) : BaseController α :=
  { base with applyArmFlag := false }

def setModeCallback (_answer : Response) (base : BaseController α) : BaseController α :=
  { base with applyOffboardFlag := false }

/-- The closure given with the disarm request. A success leaves the flag up. -/
def disarmCallback (answer : Response) (base : BaseController α) : BaseController α :=
  match answer with
  | .success => base
  | .rejected | .exception => { base with applyDisarmFlag := false }

/-- The closure given with an AUTO.LAND request only logs. -/
def autoLandCallback (_answer : Response) (base : BaseController α) : BaseController α := base

def launchCallback (data : Bool) (base : BaseController α) : BaseController α :=
  if data then { base with launchFlag := true } else { base with launchFlag := false }

def taskCallback (data : Int) (base : BaseController α) : BaseController α :=
  if data = 1 ∨ data = 2 then
    if data ≠ base.currentTaskId then { base with currentTaskId := data } else base
  else base

def vehicleStateCallback (message : VehicleState) (base : BaseController α) : BaseController α :=
  { base with currentState := message }

def localPositionCallback (config : Config α) (message : Pose α) (base : BaseController α) : BaseController α :=
  let euler := config.getRPY message.orientation
  { base with
    localPosition := message, currentRoll := euler.1, currentPitch := euler.2.1, currentYaw := euler.2.2 }

end BaseController
end FlightStack
