import Mathlib.Data.List.Sort
import FlightStack.LidarConfig
import FlightStack.LivoxToPcl

/-! `PubHandler`: the packets of the SDK become points, and the points of each lidar
are gathered to frames. The SDK's thread and the processing thread take turns. -/

namespace FlightStack

/-- `ExtParameterDetailed`. The rotation is kept by its rows. -/
structure ExtParameterDetailed (α : Type) where
  trans : Point α
  rotation₀ : Point α
  rotation₁ : Point α
  rotation₂ : Point α

/-- `LivoxLidarCartesianHighRawPoint` and `LivoxLidarCartesianLowRawPoint` -/
structure CartesianRawPoint where
  x : Int
  y : Int
  z : Int
  reflectivity : UInt8
  tag : UInt8

/-- `LivoxLidarSpherPoint` -/
structure SpherPoint where
  depth : Nat
  theta : Nat
  phi : Nat
  reflectivity : UInt8
  tag : UInt8

/-- What a packet carries, by its `data_type` -/
inductive RawData where
  | cartesianHigh (points : List CartesianRawPoint)
  | cartesianLow (points : List CartesianRawPoint)
  | spherical (points : List SpherPoint)
  | unknown

def RawData.length : RawData → Nat
  | .cartesianHigh points | .cartesianLow points => points.length
  | .spherical points => points.length
  | .unknown => 0

structure RawPacket where
  handle : BitVec 32
  extrinsicEnable : Bool
  lineNum : Nat
  pointNum : Nat
  timeStamp : BitVec 64
  pointInterval : BitVec 64
  rawData : RawData

structure RawImuPoint (α : Type) where
  gyroX : α
  gyroY : α
  gyroZ : α
  accX : α
  accY : α
  accZ : α

inductive TimestampType where
  | noSync
  | gptpOrPtp
  | gps
  | other
  deriving DecidableEq, Repr

inductive LivoxLidarDeviceType where
  | industrialHAP
  | mid360
  | mid360s
  | other
  deriving DecidableEq, Repr

/-- `LivoxLidarEthernetPacket`. Its data are the sample of the IMU or points. -/
structure EthernetPacket (α : Type) where
  timeType : TimestampType
  timeInterval : Nat
  dotNum : Nat
  timestamp : BitVec 64
  data : RawImuPoint α ⊕ RawData

def kLineNumberHAP : Nat := 6
def kLineNumberMid360 : Nat := 4
def kLineNumberDefault : Nat := 1
def kMaxSourceLidar : Nat := 32
def kRatioOfMsToNs : BitVec 64 := 1000000
def kNsTolerantFrameTimeDeviation : BitVec 64 := 1000000

/-- Of clocks that are not in step with anything the time of arrival is taken. -/
def getEthPacketTimestamp (timestampType : TimestampType) (timeStamp : BitVec 64) (now : Int) : BitVec 64 :=
  if timestampType = .gptpOrPtp ∨ timestampType = .gps then timeStamp else BitVec.ofInt 64 now

variable {α : Type}

structure LidarPubHandler (α : Type) where
  pointsClouds : List (PointXyzlt α) := []
  extrinsic : ExtParameterDetailed α
  isSetExtrinsicParams : Bool := false

namespace LidarPubHandler

def getLidarBaseTime (handler : LidarPubHandler α) : BitVec 64 := (handler.pointsClouds.head?.map (·.offsetTime)).getD 0

def getRecentTimeStamp (handler : LidarPubHandler α) : BitVec 64 :=
  (handler.pointsClouds.getLast?.map (·.offsetTime)).getD 0

def getLidarPointClouds (handler : LidarPubHandler α) : List (PointXyzlt α) × LidarPubHandler α :=
  (handler.pointsClouds, { handler with pointsClouds := [] })

variable [Arithmetic α]

/-- What every handler starts with -/
def construct : LidarPubHandler α where
  extrinsic := ⟨⟨0, 0, 0⟩, ⟨1, 0, 0⟩, ⟨0, 1, 1⟩, ⟨0, 0, 1⟩⟩

/-- The parameters in degrees and millimetres as a rotation and a translation -/
def detailed (param : ExtParameter α) : ExtParameterDetailed α :=
  let cosRoll := cos (param.roll * pi / 180)
  let cosPitch := cos (param.pitch * pi / 180)
  let cosYaw := cos (param.yaw * pi / 180)
  let sinRoll := sin (param.roll * pi / 180)
  let sinPitch := sin (param.pitch * pi / 180)
  let sinYaw := sin (param.yaw * pi / 180)
  { trans := ⟨param.x, param.y, param.z⟩
    rotation₀ := ⟨cosPitch * cosYaw, sinRoll * sinPitch * cosYaw - cosRoll * sinYaw,
      cosRoll * sinPitch * cosYaw + sinRoll * sinYaw⟩
    rotation₁ := ⟨cosPitch * sinYaw, sinRoll * sinPitch * sinYaw + cosRoll * cosYaw,
      cosRoll * sinPitch * sinYaw - sinRoll * cosYaw⟩
    rotation₂ := ⟨-sinPitch, sinRoll * cosPitch, cosRoll * cosPitch⟩ }

def setLidarsExtParam (param : ExtParameter α) (handler : LidarPubHandler α) : LidarPubHandler α :=
  if handler.isSetExtrinsicParams then handler
  else { handler with extrinsic := detailed param, isSetExtrinsicParams := true }

/-- A row of the rotation at a point -/
def along (row : Point α) (x y z : α) : α := x * row.x + y * row.y + z * row.z

/-- What a lidar with low data counts to a metre -/
def lowUnit : α := 100

/-- The point of a raw one. `unit` is what the lidar counts to a metre. -/
def cartesianPoint (unit : α) (extrinsic : ExtParameterDetailed α) (pkt : RawPacket) (raw : CartesianRawPoint) (i : Nat) :
    PointXyzlt α :=
  { x := if pkt.extrinsicEnable then raw.x / unit
      else (along extrinsic.rotation₀ raw.x raw.y raw.z + extrinsic.trans.x) / unit
    y := if pkt.extrinsicEnable then raw.y / unit
      else (along extrinsic.rotation₁ raw.x raw.y raw.z + extrinsic.trans.y) / unit
    z := if pkt.extrinsicEnable then raw.z / unit
      else (along extrinsic.rotation₂ raw.x raw.y raw.z + extrinsic.trans.z) / unit
    intensity := (raw.reflectivity.toNat : α)
    tag := raw.tag
    line := .ofNat (i % pkt.lineNum)
    offsetTime := pkt.timeStamp + BitVec.ofNat 64 i * pkt.pointInterval }

/-- Where a raw point is in the coordinates of the lidar, in metres -/
def sphericalSource (raw : SpherPoint) : Point α :=
  let radius : α := raw.depth / 1000
  let theta : α := raw.theta / 100 / 180 * pi
  let phi : α := raw.phi / 100 / 180 * pi
  ⟨radius * sin theta * cos phi, radius * sin theta * sin phi, radius * cos theta⟩

def sphericalPoint (extrinsic : ExtParameterDetailed α) (pkt : RawPacket) (raw : SpherPoint) (i : Nat) : PointXyzlt α :=
  let src : Point α := sphericalSource raw
  { x := if pkt.extrinsicEnable then src.x
      else along extrinsic.rotation₀ src.x src.y src.z + extrinsic.trans.x / 1000
    y := if pkt.extrinsicEnable then src.y
      else along extrinsic.rotation₁ src.x src.y src.z + extrinsic.trans.y / 1000
    z := if pkt.extrinsicEnable then src.z
      else along extrinsic.rotation₂ src.x src.y src.z + extrinsic.trans.z / 1000
    intensity := (raw.reflectivity.toNat : α)
    tag := raw.tag
    line := .ofNat (i % pkt.lineNum)
    offsetTime := pkt.timeStamp + BitVec.ofNat 64 i * pkt.pointInterval }

/-- The points that `PointCloudProcess` appends -/
def processed (extrinsic : ExtParameterDetailed α) (pkt : RawPacket) : List (PointXyzlt α) :=
  match pkt.rawData with
  | .cartesianHigh points => (points.take pkt.pointNum).mapIdx fun i raw => cartesianPoint 1000 extrinsic pkt raw i
  | .cartesianLow points => (points.take pkt.pointNum).mapIdx fun i raw => cartesianPoint lowUnit extrinsic pkt raw i
  | .spherical points => (points.take pkt.pointNum).mapIdx fun i raw => sphericalPoint extrinsic pkt raw i
  | .unknown => []

def pointCloudProcess (pkt : RawPacket) (handler : LidarPubHandler α) : LidarPubHandler α :=
  { handler with pointsClouds := handler.pointsClouds ++ processed handler.extrinsic pkt }

end LidarPubHandler

/-- A `PointFrame`: for each lidar in it the base time and the packet -/
abbrev PointFrame (α : Type) := List (BitVec 64 × PointPacket α)

/-- What `SetPointCloudConfig` sets -/
structure PointCloudConfig where
  publishInterval : BitVec 64
  publishIntervalTolerance : BitVec 64
  publishIntervalMs : BitVec 64

def setPointCloudConfig [Arithmetic α] (publishFreq : α) : PointCloudConfig :=
  let publishInterval := BitVec.ofNat 64 ⌊(1000000000 : α) / (publishFreq * 10) * 10⌋₊
  ⟨publishInterval, publishInterval - kNsTolerantFrameTimeDeviation, publishInterval / kRatioOfMsToNs⟩

structure PubHandler (α : Type) where
  isQuit : Bool := false
  isTimestampSync : Bool := false
  received : Option RawPacket := none
  rawPacketQueue : List RawPacket := []
  lidars : List (BitVec 32) := []
  handler : BitVec 32 → LidarPubHandler α
  checking : Option (BitVec 32) := none
  lastPubTime : Option Int := none

namespace PubHandler

inductive Event (α : Type) where
  | onLivoxLidarPointCloud (handle : BitVec 32) (devType : LivoxLidarDeviceType) (data : EthernetPacket α) (now : Int)
  | enqueue
  | rawDataProcess
  | checkTimer (now : Int)
  | requestExit

inductive Output (α : Type) where
  | imu (handle : BitVec 32) (timeStamp : BitVec 64) (data : RawImuPoint α)
  | publish (frame : PointFrame α)

def lineNum : LivoxLidarDeviceType → Nat
  | .industrialHAP => kLineNumberHAP
  | .mid360 | .mid360s => kLineNumberMid360
  | .other => kLineNumberDefault

/-- The packet as it is queued. There is none without points in it: its interval would be
divided by their number. -/
def rawPacket (handle : BitVec 32) (devType : LivoxLidarDeviceType) (data : EthernetPacket α) (rawData : RawData)
    (now : Int) : Option RawPacket :=
  if data.dotNum = 0 then none
  else some {
    handle
    extrinsicEnable := false
    lineNum := lineNum devType
    pointNum := data.dotNum
    timeStamp := getEthPacketTimestamp data.timeType data.timestamp now
    pointInterval := BitVec.ofNat 64 (data.timeInterval * 100 / data.dotNum)
    rawData }

/-- `OnLivoxLidarPointCloudCallback` up to the lock of the queue -/
def onLivoxLidarPointCloud (handle : BitVec 32) (devType : LivoxLidarDeviceType) (data : EthernetPacket α) (now : Int)
    (pub : PubHandler α) : Option (PubHandler α × List (Output α)) :=
  let synced := { pub with isTimestampSync := decide (data.timeType ≠ .noSync) }
  match data.data with
  | .inl imu => some (synced, [.imu handle (getEthPacketTimestamp data.timeType data.timestamp now) imu])
  | .inr rawData => (rawPacket handle devType data rawData now).map fun packet => ({ synced with received := some packet }, [])

def setHandler (pub : PubHandler α) (id : BitVec 32) (handler : LidarPubHandler α) : PubHandler α :=
  { pub with handler := Function.update pub.handler id handler }

/-- The key of a handler comes to its place in the order of the map. -/
def insertLidar (lidars : List (BitVec 32)) (id : BitVec 32) : List (BitVec 32) :=
  if lidars.contains id then lidars else lidars.orderedInsert (· ≤ ·) id

def pointPacket (handle : BitVec 32) (points : List (PointXyzlt α)) : PointPacket α where
  handle := handle
  lidarType := kLivoxLidarType
  pointsNum := BitVec.ofNat 32 points.length
  points := points
  counted := by
    rw [BitVec.toNat_ofNat]
    exact Nat.mod_le ..

def frameLidar (pub : PubHandler α) (handle : BitVec 32) : BitVec 64 × PointPacket α :=
  ((pub.handler handle).getLidarBaseTime, pointPacket handle (pub.handler handle).getLidarPointClouds.1)

/-- The loop that gathers the frame of all lidars. A frame has place for 32. -/
def gather (pub : PubHandler α) : List (BitVec 32) → PointFrame α → Option (PointFrame α)
  | [], frame => some frame
  | handle :: rest, frame =>
    if frame.length < kMaxSourceLidar then
      gather pub rest (if (pub.handler handle).pointsClouds.isEmpty then frame else frame ++ [pub.frameLidar handle])
    else none

/-- `CheckTimer` with synchronised clocks -/
def checkSynced (config : PointCloudConfig) (id : BitVec 32) (pub : PubHandler α) :
    Option (PubHandler α × List (Output α)) :=
  let handler := pub.handler id
  let recentTimeMs := handler.getRecentTimeStamp / kRatioOfMsToNs
  if config.publishIntervalMs = 0 then none
  else if recentTimeMs % config.publishIntervalMs ≠ 0 ∨ recentTimeMs = 0 then some (pub, [])
  else if handler.getRecentTimeStamp - handler.getLidarBaseTime < config.publishIntervalTolerance then some (pub, [])
  else if handler.pointsClouds.isEmpty then some (pub, [])
  else some (pub.setHandler id handler.getLidarPointClouds.2, [.publish [pub.frameLidar id]])

/-- `CheckTimer` with the clock of the computer -/
def checkUnsynced (config : PointCloudConfig) (now : Int) (pub : PubHandler α) :
    Option (PubHandler α × List (Output α)) :=
  match pub.lastPubTime with
  | none => some ({ pub with lastPubTime := some now }, [])
  | some lastPubTime =>
    if now - lastPubTime < config.publishInterval.toInt then some (pub, [])
    else (pub.gather pub.lidars []).map fun frame =>
      ({ pub with
        lastPubTime := some (lastPubTime + config.publishInterval.toInt)
        handler := fun id => (pub.handler id).getLidarPointClouds.2 }, [.publish frame])

def checkTimer (config : PointCloudConfig) (now : Int) (pub : PubHandler α) :
    Option (PubHandler α × List (Output α)) :=
  match pub.checking with
  | none => none
  | some id =>
    let done := { pub with checking := none }
    if pub.isTimestampSync then done.checkSynced config id else done.checkUnsynced config now

variable [Arithmetic α]

/-- The handler of a lidar with its extrinsic parameters, if there are any for it -/
def configuredHandler (lidarExtrinsics : BitVec 32 → Option (ExtParameter α)) (pub : PubHandler α) (id : BitVec 32) :
    LidarPubHandler α :=
  match lidarExtrinsics id with
  | none => pub.handler id
  | some param => (pub.handler id).setLidarsExtParam param

/-- The loop of `RawDataProcess` up to `CheckTimer`. The queue is waited for. -/
def rawDataProcess (lidarExtrinsics : BitVec 32 → Option (ExtParameter α)) (pub : PubHandler α) :
    Option (PubHandler α) :=
  match pub.checking, pub.rawPacketQueue with
  | none, rawData :: rest =>
    let id := rawData.handle
    some ({ pub with
      rawPacketQueue := rest, lidars := insertLidar pub.lidars id, checking := some id }.setHandler id
        ((pub.configuredHandler lidarExtrinsics id).pointCloudProcess rawData))
  | _, _ => none

def step (lidarExtrinsics : BitVec 32 → Option (ExtParameter α)) (config : PointCloudConfig) (pub : PubHandler α) :
    Event α → Option (PubHandler α × List (Output α))
  | .onLivoxLidarPointCloud handle devType data now =>
    if pub.received.isSome then none else pub.onLivoxLidarPointCloud handle devType data now
  | .enqueue => pub.received.map fun packet =>
    ({ pub with received := none, rawPacketQueue := pub.rawPacketQueue ++ [packet] }, [])
  | .rawDataProcess => if pub.isQuit then none else (pub.rawDataProcess lidarExtrinsics).map fun after => (after, [])
  | .checkTimer now => pub.checkTimer config now
  | .requestExit => some ({ pub with isQuit := true }, [])

end PubHandler

def pubHandler [Arithmetic α] (lidarExtrinsics : BitVec 32 → Option (ExtParameter α)) (config : PointCloudConfig) :
    Machine (PubHandler α) (PubHandler.Event α) (PubHandler.Output α) where
  initial := { handler := fun _ => .construct }
  step := PubHandler.step lidarExtrinsics config

end FlightStack
