import FlightStack.PubHandler

/-! The whole driver: the configuration, the processing thread that gathers frames and
stores them, and the publishing thread, from the configuration file on. -/

namespace FlightStack
variable {α : Type}

/-- What `InitLivoxLidar` hands on for a lidar. Lidars with low data count in centimetres. -/
def lidarExtParam (config : UserLivoxLidarConfig α) : ExtParameter α :=
  if config.pclDataType = 2 then
    { config.extrinsicParam with
      x := config.extrinsicParam.x.tdiv 10, y := config.extrinsicParam.y.tdiv 10, z := config.extrinsicParam.z.tdiv 10 }
  else config.extrinsicParam

/-- `AddLidarsExtParam` in the loop of `InitLivoxLidar`, for those lidars that get a place -/
def addLidarsExtParam (state : LdsLidar α × (BitVec 32 → Option (ExtParameter α))) (config : UserLivoxLidarConfig α) :
    LdsLidar α × (BitVec 32 → Option (ExtParameter α)) :=
  (state.1.addConfig config,
    if (state.1.cacheIndex.getFreeIndex kLivoxLidarType config.handle).isNone then state.2
    else Function.update state.2 config.handle (some (lidarExtParam config)))

def lidarExtrinsics [Zero α] (entries : List (LidarEntry α)) : BitVec 32 → Option (ExtParameter α) :=
  ((entries.filterMap parseUserConfig).foldl addLidarsExtParam (.blank, fun _ => none)).2

/-- `frame` is what `StoragePointData` has still to store of the frame it was called with. -/
structure Driver (α : Type) where
  lds : LdsLidar α
  pub : PubHandler α
  frame : PointFrame α := []
  threads : LdsThreads α := {}

namespace Driver

inductive Event (α : Type) where
  | lds (event : LdsLidar.Event)
  | pub (event : PubHandler.Event α)
  | storagePointData
  | store
  | distribute
  | requestExit

inductive Output (α : Type) where
  | called (call : SdkCall α)
  | handled (output : PubHandler.Output α)
  | thread (output : LdsThreads.Output α)

/-- The lidars that come to sample -/
def sampling (before after : LdsLidar α) : List (Fin 32) :=
  (List.finRange 32).filter fun index =>
    (before.lidars index).connectState ≠ .sampling ∧ (after.lidars index).connectState = .sampling

def sample (threads : LdsThreads α) (index : Fin 32) : LdsThreads α :=
  { threads with lidars := Function.update threads.lidars index { threads.lidars index with connectState := .sampling } }

/-- Whether the processing thread is in `PushLidarData` -/
def pushing (driver : Driver α) : Bool :=
  match driver.threads.storing with
  | .idle => false
  | _ => true

/-- The processing thread is in the callback of a frame until all of it is stored. -/
def busy (driver : Driver α) : Bool := !driver.frame.isEmpty || driver.pushing

/-- Whether an event is a step of the processing thread -/
def processes : PubHandler.Event α → Bool
  | .rawDataProcess | .checkTimer _ => true
  | _ => false

def framesOf : PubHandler.Output α → PointFrame α
  | .publish frame => frame
  | .imu .. => []

/-- One round of the loop of `StoragePointData` -/
def storagePointData (queueSize : BitVec 32) (transferFormat : Int) (driver : Driver α) :
    Option (Driver α × List (Output α)) :=
  match driver.frame with
  | [] => none
  | (baseTime, lidarPoint) :: rest =>
    if driver.pushing then none
    else match driver.lds.cacheIndex.getIndex lidarPoint.lidarType lidarPoint.handle with
      | none => some ({ driver with frame := rest }, [])
      | some index => (driver.threads.step queueSize transferFormat (.pushLidarData index lidarPoint baseTime)).map
        fun taken => ({ driver with frame := rest, threads := taken.1 }, taken.2.map .thread)

def stepThreads (queueSize : BitVec 32) (transferFormat : Int) (driver : Driver α) (event : LdsThreads.Event α) :
    Option (Driver α × List (Output α)) :=
  (driver.threads.step queueSize transferFormat event).map fun taken =>
    ({ driver with threads := taken.1 }, taken.2.map .thread)

def step [Arithmetic α] (extrinsics : BitVec 32 → Option (ExtParameter α)) (config : PointCloudConfig)
    (queueSize : BitVec 32) (transferFormat : Int) (driver : Driver α) : Event α → Option (Driver α × List (Output α))
  | .lds event => (driver.lds.step event).map fun taken =>
    ({ driver with lds := taken.1, threads := (sampling driver.lds taken.1).foldl sample driver.threads },
      taken.2.map .called)
  | .pub event =>
    if processes event && driver.busy then none
    else (driver.pub.step extrinsics config event).map fun taken =>
      ({ driver with pub := taken.1, frame := driver.frame ++ taken.2.flatMap framesOf }, taken.2.map .handled)
  | .storagePointData => driver.storagePointData queueSize transferFormat
  | .store => driver.stepThreads queueSize transferFormat .store
  | .distribute => driver.stepThreads queueSize transferFormat .distribute
  | .requestExit => driver.stepThreads queueSize transferFormat .requestExit

end Driver

/-- The driver with a configuration file and a frequency to publish at -/
def driver [Arithmetic α] (entries : List (LidarEntry α)) (publishFreq : α) (transferFormat : Int) :
    Machine (Driver α) (Driver.Event α) (Driver.Output α) where
  initial := { lds := (ldsLidar entries).initial, pub := (pubHandler (lidarExtrinsics entries) (setPointCloudConfig publishFreq)).initial }
  step := Driver.step (lidarExtrinsics entries) (setPointCloudConfig publishFreq) (calculatePacketQueueSize publishFreq)
    transferFormat

end FlightStack
