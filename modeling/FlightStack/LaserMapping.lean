import FlightStack.ImuProcess

/-! `LaserMappingNode` of FAST-LIO up to the undistorted scan: the callbacks fill the
buffers, and the timer takes a scan with the samples of the IMU until its end. -/

namespace FlightStack
variable {α φ : Type}

/-- The clouds and the filter at which the rest of the timer's callback works -/
structure LaserMapping (α φ : Type) where
  lidarBuffer : List (List (PointXYZINormal α)) := []
  timeBuffer : List α := []
  imuBuffer : List (Imu α) := []
  isFirstLidar : Bool := true
  lastTimestampLidar : α
  lastTimestampImu : α
  timediffLidarWrtImu : α
  timediffSetFlg : Bool := false
  lidarPushed : Bool := false
  lidarEndTime : α
  lidarMeanScantime : α
  scanNum : Nat := 0
  measures : MeasureGroup α
  flgFirstScan : Bool := true
  firstLidarTime : α
  pImu : ImuProcess α
  kf : φ
  featsUndistort : List (PointXYZINormal α) := []

namespace LaserMapping

/-- What the node is set up with. `estimate` is what the rest of the callback makes of
the filter and the map for an undistorted scan, with `flg_EKF_inited`. -/
structure Parameters (α φ : Type) [LE α] where
  preprocess : Preprocess α
  timeSyncEn : Bool
  timeDiffLidarToImu : α
  filter : Esekf α φ
  time : TimeSort α
  estimate : Bool → List (PointXYZINormal α) → φ → φ

inductive Event (α : Type) where
  | standardPclCbk (stamp : α) (scan : List (PointXYZINormal α))
  | livoxPclCbk (msg : Lddc.CustomMsg α)
  | imuCbk (msg : Imu α)
  | timerCallback

inductive Output (α : Type) where
  | measured (meas : MeasureGroup α)
  | predicted (dt : α)
  | undistorted (scan : List (PointXYZINormal α))

variable [Arithmetic α]

/-- `get_time_sec` of the stamp of a message of the driver. The seconds of a header are an
`int32_t`, so the stamps from 2 ^ 31 seconds on, which it cannot hold, are out of scope. -/
def getTimeSec (stamp : BitVec 64) : α := stamp.toNat / 10 ^ 9

/-- The seconds of `get_ros_time`, which leaves whole nanoseconds. It throws for a time
before zero, which is kept here. -/
def getRosTime (timestamp : α) : α := ⌊timestamp⌋ + ⌊(timestamp - ⌊timestamp⌋) * 10 ^ 9⌋ / 10 ^ 9

/-- A `double` as an `int64_t` -/
def toInt64 (value : α) : Int := if value < 0 then ⌈value⌉ else ⌊value⌋

/-- A scan that is older than the last one empties the buffer of the scans. -/
def loopBackLidar (node : LaserMapping α φ) (curTime : α) : LaserMapping α φ :=
  { node with
    lidarBuffer := if !node.isFirstLidar && curTime < node.lastTimestampLidar then [] else node.lidarBuffer
    isFirstLidar := false
    lastTimestampLidar := curTime }

def pushLidar (node : LaserMapping α φ) (curTime : α) (scan : List (PointXYZINormal α)) : LaserMapping α φ :=
  { node with lidarBuffer := node.lidarBuffer ++ [scan], timeBuffer := node.timeBuffer ++ [curTime] }

def standardPclCbk (node : LaserMapping α φ) (curTime : α) (scan : List (PointXYZINormal α)) : LaserMapping α φ :=
  (node.loopBackLidar curTime).pushLidar curTime scan

/-- The difference between the clocks, which is taken once -/
def selfSync (timeSyncEn : Bool) (node : LaserMapping α φ) : LaserMapping α φ :=
  if timeSyncEn && !node.timediffSetFlg && 1 < |node.lastTimestampLidar - node.lastTimestampImu| && !node.imuBuffer.isEmpty
  then { node with
    timediffSetFlg := true, timediffLidarWrtImu := node.lastTimestampLidar + 0.1 - node.lastTimestampImu }
  else node

def livoxPclCbk (params : Parameters α φ) (node : LaserMapping α φ) (msg : Lddc.CustomMsg α) : LaserMapping α φ :=
  ((node.loopBackLidar (getTimeSec msg.stamp)).selfSync params.timeSyncEn).pushLidar (getTimeSec msg.stamp)
    (params.preprocess.aviaHandler msg)

/-- The stamp that a sample of the IMU is given. `rclcpp::Time` takes its argument for
nanoseconds, and the sum is in seconds. -/
def imuStamp (params : Parameters α φ) (node : LaserMapping α φ) (stamp : α) : α :=
  if 0.1 < |node.timediffLidarWrtImu| && params.timeSyncEn then toInt64 (node.timediffLidarWrtImu + stamp) / 10 ^ 9
  else getRosTime (stamp - params.timeDiffLidarToImu)

theorem getRosTime_natCast (seconds : Nat) : getRosTime (seconds : α) = seconds := by simp [getRosTime]

@[simp] theorem getRosTime_zero : getRosTime (0 : α) = 0 := by simp [getRosTime]

@[simp] theorem getRosTime_one : getRosTime (1 : α) = 1 := by simp [getRosTime]

@[simp] theorem getRosTime_ofNat (seconds : Nat) [seconds.AtLeastTwo] :
    getRosTime (ofNat(seconds) : α) = ofNat(seconds) := getRosTime_natCast seconds

def imuCbk (params : Parameters α φ) (node : LaserMapping α φ) (msg : Imu α) : LaserMapping α φ :=
  let timestamp := imuStamp params node msg.stamp
  { node with
    imuBuffer := (if timestamp < node.lastTimestampImu then [] else node.imuBuffer) ++ [{ msg with stamp := timestamp }]
    lastTimestampImu := timestamp }

/-- The time of the last point of a scan, in seconds from its beginning -/
def lastOffset (scan : List (PointXYZINormal α)) : α := (scan.getLast?.elim 0 (·.curvature)) / 1000

/-- How `sync_packages` takes a scan up, with its end and the mean time of the scans -/
def takeUp (node : LaserMapping α φ) (scan : List (PointXYZINormal α)) (begTime : α) : LaserMapping α φ :=
  let taken := fun (endTime mean : α) (count : Nat) =>
    { node with
      lidarEndTime := endTime, lidarMeanScantime := mean, scanNum := count, lidarPushed := true
      measures := { node.measures with lidar := scan, lidarBegTime := begTime, lidarEndTime := endTime } }
  if scan.length ≤ 1 ∨ lastOffset scan < 0.5 * node.lidarMeanScantime then
    taken (begTime + node.lidarMeanScantime) node.lidarMeanScantime node.scanNum
  else
    taken (begTime + lastOffset scan)
      (node.lidarMeanScantime + (lastOffset scan - node.lidarMeanScantime) / (node.scanNum + 1 : Nat)) (node.scanNum + 1)

/-- The loop that moves the samples from the buffer to the measure. `imuTime` is the stamp
of the one it was at before. -/
def popImu (lidarEndTime : α) (imuTime : α) : List (Imu α) → List (Imu α) × List (Imu α)
  | [] => ([], [])
  | imu :: rest =>
    if imuTime < lidarEndTime then
      if lidarEndTime < imu.stamp then ([], imu :: rest)
      else
        let later := popImu lidarEndTime imu.stamp rest
        (imu :: later.1, later.2)
    else ([], imu :: rest)

/-- `sync_packages`, with whether there is a measure -/
def syncPackages (node : LaserMapping α φ) : Bool × LaserMapping α φ :=
  match node.lidarBuffer, node.timeBuffer, node.imuBuffer with
  | scan :: scans, begTime :: times, imu :: samples =>
    let node := if node.lidarPushed then node else node.takeUp scan begTime
    if node.lastTimestampImu < node.lidarEndTime then (false, node)
    else
      let popped := popImu node.lidarEndTime imu.stamp (imu :: samples)
      (true, { node with
        lidarBuffer := scans, timeBuffer := times, imuBuffer := popped.2, lidarPushed := false
        measures := { node.measures with imu := popped.1 } })
  | _, _, _ => (false, node)

/-- The timer's callback after `sync_packages` -/
def useMeasures (params : Parameters α φ) (node : LaserMapping α φ) : LaserMapping α φ × List (Output α) :=
  if node.flgFirstScan then
    ({ node with
      flgFirstScan := false, firstLidarTime := node.measures.lidarBegTime
      pImu := { node.pImu with firstLidarTime := node.measures.lidarBegTime } }, [])
  else
    let processed := ImuProcess.process params.filter params.time node.measures node.pImu node.kf
    let featsUndistort := processed.curPclUn.getD node.featsUndistort
    let node := { node with pImu := processed.proc, kf := processed.kf, featsUndistort }
    if featsUndistort.isEmpty then (node, processed.predicted.map .predicted)
    else ({ node with
        kf := params.estimate (decide (0.1 ≤ node.measures.lidarBegTime - node.firstLidarTime)) featsUndistort node.kf },
      processed.predicted.map .predicted ++ [.undistorted featsUndistort])

def timerCallback (params : Parameters α φ) (node : LaserMapping α φ) : LaserMapping α φ × List (Output α) :=
  match node.syncPackages with
  | (false, node) => (node, [])
  | (true, node) => ((node.useMeasures params).1, .measured node.measures :: (node.useMeasures params).2)

def step (params : Parameters α φ) (node : LaserMapping α φ) : Event α → Option (LaserMapping α φ × List (Output α))
  | .standardPclCbk stamp scan => some (node.standardPclCbk stamp scan, [])
  | .livoxPclCbk msg => some (node.livoxPclCbk params msg, [])
  | .imuCbk msg => some (node.imuCbk params msg, [])
  | .timerCallback => some (node.timerCallback params)

end LaserMapping

/-- The node as it starts, with what the constructor gives its process and its filter -/
def laserMapping [Arithmetic α] (params : LaserMapping.Parameters α φ) (pImu : ImuProcess α) (kf : φ) :
    Machine (LaserMapping α φ) (LaserMapping.Event α) (LaserMapping.Output α) where
  initial := {
    lastTimestampLidar := 0, lastTimestampImu := -1, timediffLidarWrtImu := 0, lidarEndTime := 0, lidarMeanScantime := 0
    firstLidarTime := 0, measures := ⟨0, 0, [], []⟩, pImu, kf }
  step := LaserMapping.step params

end FlightStack
