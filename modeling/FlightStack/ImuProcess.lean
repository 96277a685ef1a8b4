import Mathlib.Data.Matrix.Mul
import Mathlib.LinearAlgebra.Matrix.Notation
import FlightStack.Preprocess

/-! `ImuProcess` of FAST-LIO: the first samples of the IMU start the filter, later ones
carry it on from the end of one scan to the end of the next, and the points of a scan are
brought to its end. -/

namespace FlightStack
open Matrix

abbrev V3D (α : Type) := Fin 3 → α

abbrev M3D (α : Type) := Matrix (Fin 3) (Fin 3) α

/-- `sensor_msgs::msg::Imu`, with its stamp in seconds -/
structure Imu (α : Type) where
  stamp : α
  angularVelocity : V3D α
  linearAcceleration : V3D α

/-- The lidar and IMU data of the current process -/
structure MeasureGroup (α : Type) where
  lidarBegTime : α
  lidarEndTime : α
  lidar : List (PointXYZINormal α)
  imu : List (Imu α)

structure StateIkfom (α : Type) where
  pos : V3D α
  rot : M3D α
  offsetR : M3D α
  offsetT : V3D α
  vel : V3D α
  bg : V3D α
  ba : V3D α
  grav : V3D α

structure InputIkfom (α : Type) where
  acc : V3D α
  gyro : V3D α

structure Pose6D (α : Type) where
  offsetTime : α
  acc : V3D α
  gyr : V3D α
  vel : V3D α
  pos : V3D α
  rot : M3D α

/-- The blocks of the diagonal of `Q` -/
structure ProcessNoise (α : Type) where
  gyr : V3D α
  acc : V3D α
  biasGyr : V3D α
  biasAcc : V3D α

/-- `esekfom::esekf` with the model of `use-ikfom.hpp`. What `IMU_init` passes to `change_P`
is always the same matrix. -/
structure Esekf (α φ : Type) where
  getX : φ → StateIkfom α
  changeX : StateIkfom α → φ → φ
  initP : φ → φ
  predict : α → ProcessNoise α → InputIkfom α → φ → φ

/-- What `std::sort` makes of points that are compared by `time_list` -/
structure TimeSort (α : Type) [LE α] where
  sort : List (PointXYZINormal α) → List (PointXYZINormal α)
  perm : ∀ points, (sort points).Perm points
  sorted : ∀ points, (sort points).Pairwise fun first second => first.curvature ≤ second.curvature

structure ImuProcess (α : Type) where
  lidarRWrtImu : M3D α
  lidarTWrtImu : V3D α
  covAccScale : V3D α
  covGyrScale : V3D α
  covBiasGyr : V3D α
  covBiasAcc : V3D α
  covAcc : V3D α
  covGyr : V3D α
  q : ProcessNoise α
  meanAcc : V3D α
  meanGyr : V3D α
  angvelLast : V3D α
  accSLast : V3D α
  lastImu : Imu α
  lastLidarEndTime : α
  firstLidarTime : α
  initIterNum : Nat := 1
  bFirstFrame : Bool := true
  imuNeedInit : Bool := true
  imuPose : List (Pose6D α) := []

def maxIniCount : Nat := 10

namespace ImuProcess
variable {α φ : Type} [Arithmetic α]

def norm (v : V3D α) : α := sqrt (v 0 * v 0 + v 1 * v 1 + v 2 * v 2)

/-- `G_m_s2` -/
def gravity : α := 9.81

/-- The constructor of `S2`, whose vectors are of the length 98090 / 10000 -/
def s2 (v : V3D α) : V3D α := fun i => v i / norm v * 9.809

/-- `SKEW_SYM_MATRX` -/
def skew (v : V3D α) : M3D α := !![0, -v 2, v 1; v 2, 0, -v 0; -v 1, v 0, 0]

/-- `Exp` of an angular velocity over some time -/
def exp (angVel : V3D α) (dt : α) : M3D α :=
  if 1e-7 < norm angVel then
    let k := skew fun i => angVel i / norm angVel
    let rAng := norm angVel * dt
    1 + sin rAng • k + ((1 - cos rAng) • k) * k
  else 1

/-- `Reset`, as far as it is not written again by its caller -/
def reset (proc : ImuProcess α) : ImuProcess α :=
  { proc with
    meanAcc := ![0, 0, -1], meanGyr := 0, angvelLast := 0, imuNeedInit := true, initIterNum := 1, imuPose := []
    lastImu := ⟨0, 0, 0⟩ }

/-- The body of the loop of `IMU_init` -/
def initRound (proc : ImuProcess α) (imu : Imu α) : ImuProcess α :=
  let n : α := proc.initIterNum
  let curAcc := imu.linearAcceleration
  let curGyr := imu.angularVelocity
  let meanAcc := fun i => proc.meanAcc i + (curAcc i - proc.meanAcc i) / n
  let meanGyr := fun i => proc.meanGyr i + (curGyr i - proc.meanGyr i) / n
  { proc with
    meanAcc
    meanGyr
    covAcc := fun i => proc.covAcc i * (n - 1) / n + (curAcc i - meanAcc i) * (curAcc i - meanAcc i) * (n - 1) / (n * n)
    covGyr := fun i => proc.covGyr i * (n - 1) / n + (curGyr i - meanGyr i) * (curGyr i - meanGyr i) * (n - 1) / (n * n)
    initIterNum := proc.initIterNum + 1 }

/-- What `IMU_init` starts its loop with -/
def firstFrame (meas : MeasureGroup α) (first : Imu α) (proc : ImuProcess α) : ImuProcess α :=
  if proc.bFirstFrame then
    { proc.reset with
      bFirstFrame := false, meanAcc := first.linearAcceleration, meanGyr := first.angularVelocity
      firstLidarTime := meas.lidarBegTime }
  else proc

def initState (proc : ImuProcess α) (state : StateIkfom α) : StateIkfom α :=
  { state with
    grav := s2 fun i => -proc.meanAcc i / norm proc.meanAcc * gravity
    bg := proc.meanGyr
    offsetT := proc.lidarTWrtImu
    offsetR := proc.lidarRWrtImu }

/-- `IMU_init` for a measure that begins with the sample `first` -/
def imuInit (filter : Esekf α φ) (meas : MeasureGroup α) (first : Imu α) (proc : ImuProcess α) (kf : φ) :
    ImuProcess α × φ :=
  let after := meas.imu.foldl initRound (proc.firstFrame meas first)
  ({ after with lastImu := meas.imu.getLastD first }, filter.initP (filter.changeX (after.initState (filter.getX kf)) kf))

/-- What the loop over the samples of `UndistortPcl` works on. The times it predicts over
are kept. -/
structure Forward (α φ : Type) where
  kf : φ
  input : InputIkfom α
  q : ProcessNoise α
  imuPose : List (Pose6D α)
  angvelLast : V3D α
  accSLast : V3D α
  predicted : List α

/-- A round of the loop, for two samples that follow on each other -/
def forwardRound (filter : Esekf α φ) (proc : ImuProcess α) (pclBegTime : α) (loop : Forward α φ) (pair : Imu α × Imu α) :
    Forward α φ :=
  let (head, tail) := pair
  if tail.stamp < proc.lastLidarEndTime then loop
  else
    let angvelAvr : V3D α := fun i => 0.5 * (head.angularVelocity i + tail.angularVelocity i)
    let accAvr : V3D α := fun i =>
      0.5 * (head.linearAcceleration i + tail.linearAcceleration i) * gravity / norm proc.meanAcc
    let dt := if head.stamp < proc.lastLidarEndTime then tail.stamp - proc.lastLidarEndTime else tail.stamp - head.stamp
    let input := ⟨accAvr, angvelAvr⟩
    let q := ⟨proc.covGyr, proc.covAcc, proc.covBiasGyr, proc.covBiasAcc⟩
    let kf := filter.predict dt q input loop.kf
    let imuState := filter.getX kf
    let angvelLast := angvelAvr - imuState.bg
    let accSLast := imuState.rot *ᵥ (accAvr - imuState.ba) + imuState.grav
    { kf, input, q, angvelLast, accSLast
      imuPose := loop.imuPose ++
        [⟨tail.stamp - pclBegTime, accSLast, angvelLast, imuState.vel, imuState.pos, imuState.rot⟩]
      predicted := loop.predicted ++ [dt] }

/-- The samples one after the other, the last one of the measure before in front -/
def forward (filter : Esekf α φ) (meas : MeasureGroup α) (proc : ImuProcess α) (kf : φ) : Forward α φ :=
  let imuState := filter.getX kf
  (((proc.lastImu :: meas.imu).zip meas.imu).foldl (forwardRound filter proc meas.lidarBegTime)
    { kf, q := proc.q, input := ⟨0, 0⟩, angvelLast := proc.angvelLast, accSLast := proc.accSLast, predicted := []
      imuPose := [⟨0, proc.accSLast, proc.angvelLast, imuState.vel, imuState.pos, imuState.rot⟩] })

/-- A point brought to the end of the scan, from the poses at both ends of its time -/
def compensate (imuState : StateIkfom α) (head tail : Pose6D α) (point : PointXYZINormal α) : PointXYZINormal α :=
  let dt := point.curvature / 1000 - head.offsetTime
  let rI := head.rot * exp tail.gyr dt
  let pI : V3D α := ![point.x, point.y, point.z]
  let tEi : V3D α := fun i => head.pos i + head.vel i * dt + 0.5 * tail.acc i * dt * dt - imuState.pos i
  let pCompensate := imuState.offsetRᵀ *ᵥ
    (imuState.rotᵀ *ᵥ (rI *ᵥ (imuState.offsetR *ᵥ pI + imuState.offsetT) + tEi) - imuState.offsetT)
  { point with x := pCompensate 0, y := pCompensate 1, z := pCompensate 2 }

/-- The inner loop of the backward propagation, from the point at `i` on. It tells where
it stops. -/
def backwardRounds (imuState : StateIkfom α) (head tail : Pose6D α) (i : Nat) (points : List (PointXYZINormal α)) :
    Nat × List (PointXYZINormal α) :=
  match points[i]? with
  | none => (i, points)
  | some point =>
    if head.offsetTime < point.curvature / 1000 then
      let moved := points.set i (compensate imuState head tail point)
      match i with
      | 0 => (0, moved)
      | before + 1 => backwardRounds imuState head tail before moved
    else (i, points)

/-- The poses with those before them, from the last on -/
def segments (imuPose : List (Pose6D α)) : List (Pose6D α × Pose6D α) := (imuPose.zip imuPose.tail).reverse

/-- The outer loop of the backward propagation -/
def backward (imuState : StateIkfom α) (imuPose : List (Pose6D α)) (points : List (PointXYZINormal α)) :
    List (PointXYZINormal α) :=
  ((segments imuPose).foldl (fun reached pair => backwardRounds imuState pair.1 pair.2 reached.1 reached.2)
    (points.length - 1, points)).2

/-- What `Process` leaves. There is no new cloud where it returns early. -/
structure Processed (α φ : Type) where
  proc : ImuProcess α
  kf : φ
  curPclUn : Option (List (PointXYZINormal α)) := none
  predicted : List α := []

/-- `UndistortPcl` for a measure whose last sample is `last` -/
def undistortPcl (filter : Esekf α φ) (time : TimeSort α) (meas : MeasureGroup α) (last : Imu α) (proc : ImuProcess α)
    (kf : φ) : Processed α φ :=
  let loop := forward filter meas proc kf
  let note : α := if last.stamp < meas.lidarEndTime then 1 else -1
  let dt := note * (meas.lidarEndTime - last.stamp)
  let kf := filter.predict dt loop.q loop.input loop.kf
  { proc := { proc with
      q := loop.q, imuPose := loop.imuPose, angvelLast := loop.angvelLast, accSLast := loop.accSLast, lastImu := last
      lastLidarEndTime := meas.lidarEndTime }
    kf
    curPclUn := some (backward (filter.getX kf) loop.imuPose (time.sort meas.lidar))
    predicted := loop.predicted ++ [dt] }

def process (filter : Esekf α φ) (time : TimeSort α) (meas : MeasureGroup α) (proc : ImuProcess α) (kf : φ) :
    Processed α φ :=
  match meas.imu with
  | [] => { proc, kf }
  | first :: rest =>
    if proc.imuNeedInit then
      let (proc, kf) := imuInit filter meas first proc kf
      if maxIniCount < proc.initIterNum then
        { proc := { proc with imuNeedInit := false, covAcc := proc.covAccScale, covGyr := proc.covGyrScale }, kf }
      else { proc := { proc with imuNeedInit := true }, kf }
    else undistortPcl filter time meas (rest.getLastD first) proc kf

end ImuProcess
end FlightStack
