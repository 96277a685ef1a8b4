import FlightStack.Driver

/-! The messages that `Lddc` makes of the packets it takes from the queues. -/

namespace FlightStack.Lddc

/-- `livox_ros_driver2::msg::CustomPoint` with the members that only FAST-LIO reads -/
structure CustomPoint (α : Type) extends FlightStack.CustomPoint α where
  offsetTime : BitVec 32
  tag : UInt8
  line : UInt8

/-- `livox_ros_driver2::msg::CustomMsg` as it is published -/
structure CustomMsg (α : Type) where
  frameId : String
  stamp : BitVec 64
  timebase : BitVec 64
  pointNum : BitVec 32
  lidarId : BitVec 8
  points : List (CustomPoint α)

variable {α : Type}

/-- The time of a point as a reader of the message has it -/
def CustomMsg.timeOf (livoxMsg : CustomMsg α) (point : CustomPoint α) : BitVec 64 :=
  livoxMsg.timebase + point.offsetTime.setWidth 64

def initCustomMsg (frameId : String) (lidar : ConfiguredLidar α) (pkg : StoragePacket α) : CustomMsg α :=
  let timestamp := if pkg.points.isEmpty then 0 else pkg.baseTime
  { frameId
    stamp := timestamp
    timebase := timestamp
    pointNum := pkg.pointsNum
    lidarId := if lidar.lidarType = kLivoxLidarType then lidar.handle.setWidth 8 else 0
    points := [] }

variable [Arithmetic α]

/-- An intensity as a `uint8_t` -/
def reflectivityOf (intensity : α) : UInt8 := .ofNat ⌊intensity⌋₊

def customPoint (baseTime : BitVec 64) (point : PointXyzlt α) : CustomPoint α where
  x := point.x
  y := point.y
  z := point.z
  reflectivity := reflectivityOf point.intensity
  tag := point.tag
  line := point.line
  offsetTime := (point.offsetTime - baseTime).setWidth 32

def fillPointsToCustomMsg (livoxMsg : CustomMsg α) (pkg : StoragePacket α) : CustomMsg α :=
  { livoxMsg with points := livoxMsg.points ++ (pkg.points.take pkg.pointsNum.toNat).map (customPoint pkg.baseTime) }

/-- What `PublishCustomPointcloud` sends of a packet -/
def publishCustomPointcloud (frameId : String) (lidar : ConfiguredLidar α) (pkg : StoragePacket α) : Option (CustomMsg α) :=
  if pkg.points.isEmpty then none else some (fillPointsToCustomMsg (initCustomMsg frameId lidar pkg) pkg)

end FlightStack.Lddc
