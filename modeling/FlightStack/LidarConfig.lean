import FlightStack.CacheIndex
import FlightStack.LdsThreads

/-! The configuration of the lidars: what is read from the file, what is asked of a
lidar when the SDK announces it, and what its replies lead to. -/

namespace FlightStack

/-- `ExtParameter`, in degrees and millimetres -/
structure ExtParameter (α : Type) where
  roll : α
  pitch : α
  yaw : α
  x : Int
  y : Int
  z : Int

/-- An element of `lidar_configs` in the file. A member may be missing. -/
structure LidarEntry (α : Type) where
  ip : Option (BitVec 32)
  pclDataType : Option Int := none
  patternMode : Option Int := none
  blindSpotSet : Option Int := none
  dualEmitEn : Option Int := none
  extrinsicParameter : ExtParameter α

structure UserLivoxLidarConfig (α : Type) where
  handle : BitVec 32
  pclDataType : Int
  patternMode : Int
  blindSpotSet : Int
  dualEmitEn : Int
  extrinsicParam : ExtParameter α
  setBits : BitVec 32

/-- `static_cast<int8_t>` of a member that is there, and -1 of one that is not -/
def parseMember (member : Option Int) : Int := (member.map fun value => (BitVec.ofInt 8 value).toInt).getD (-1)

/-- The body of the loop of `ParseUserConfigs` -/
def parseUserConfig {α : Type} (entry : LidarEntry α) : Option (UserLivoxLidarConfig α) :=
  entry.ip.map fun handle =>
    { handle
      pclDataType := parseMember entry.pclDataType
      patternMode := parseMember entry.patternMode
      blindSpotSet := parseMember entry.blindSpotSet
      dualEmitEn := parseMember entry.dualEmitEn
      extrinsicParam := entry.extrinsicParameter
      setBits := 0 }

/-- The settings whose replies are waited for, one bit each in `set_bits` -/
inductive Setting where
  | dataType
  | scanPattern
  | blindSpot
  | dualEmit
  deriving DecidableEq, Repr

/-- `LivoxLidarConfigCodeBit` -/
def Setting.bit : Setting → BitVec 32
  | .dataType => 1 <<< 0
  | .scanPattern => 1 <<< 1
  | .blindSpot => 1 <<< 2
  | .dualEmit => 1 <<< 3

namespace UserLivoxLidarConfig
variable {α : Type}

def setting (config : UserLivoxLidarConfig α) : Setting → Int
  | .dataType => config.pclDataType
  | .scanPattern => config.patternMode
  | .blindSpot => config.blindSpotSet
  | .dualEmit => config.dualEmitEn

/-- The argument of the SDK call for a setting. The dual emit mode goes as a `bool`. -/
def argument (config : UserLivoxLidarConfig α) : Setting → Int
  | .dualEmit => if config.dualEmitEn = 0 then 0 else 1
  | setting => config.setting setting

end UserLivoxLidarConfig

/-- What is asked of a lidar. -/
inductive Asked where
  | setting (setting : Setting)
  | installAttitude
  | workMode
  | imuData
  deriving DecidableEq, Repr

/-- A call of the SDK, with what it passes -/
inductive SdkCall (α : Type) where
  | set (handle : BitVec 32) (setting : Setting) (value : Int)
  | setInstallAttitude (handle : BitVec 32) (attitude : ExtParameter α)
  | setWorkModeNormal (handle : BitVec 32)
  | enableImuData (handle : BitVec 32)

def SdkCall.asked {α : Type} : SdkCall α → BitVec 32 × Asked
  | .set handle setting _ => (handle, .setting setting)
  | .setInstallAttitude handle _ => (handle, .installAttitude)
  | .setWorkModeNormal handle => (handle, .workMode)
  | .enableImuData handle => (handle, .imuData)

inductive LivoxStatus where
  | success
  | timeout
  | failure
  deriving DecidableEq, Repr

/-- A `LidarDevice`, as far as its configuration goes -/
structure ConfiguredLidar (α : Type) where
  lidarType : BitVec 8 := 0
  handle : BitVec 32 := 0
  connectState : LidarConnectState := .off
  livoxConfig : UserLivoxLidarConfig α

structure LdsLidar (α : Type) where
  cacheIndex : CacheIndex := {}
  lidars : Fin 32 → ConfiguredLidar α
  awaited : List (BitVec 32 × Asked) := []

namespace LdsLidar
variable {α : Type}

def setLidar (lds : LdsLidar α) (index : Fin 32) (lidar : ConfiguredLidar α) : LdsLidar α :=
  { lds with lidars := Function.update lds.lidars index lidar }

/-- The body of the loop of `InitLivoxLidar` that fills in the devices -/
def addConfig (lds : LdsLidar α) (config : UserLivoxLidarConfig α) : LdsLidar α :=
  match lds.cacheIndex.getFreeIndex kLivoxLidarType config.handle with
  | none => lds
  | some (index, cacheIndex) =>
    { lds with cacheIndex }.setLidar index
      { lds.lidars index with lidarType := kLivoxLidarType, livoxConfig := config, handle := config.handle }

/-- The place that a handle has, `GetLidarDevice` -/
def getLidarDevice (lds : LdsLidar α) (handle : BitVec 32) : Option (Fin 32) :=
  lds.cacheIndex.getIndex kLivoxLidarType handle

/-- One setting of `LidarInfoChangeCallback`: nothing is asked where the value is -1. -/
def requestSetting (config : UserLivoxLidarConfig α) (handle : BitVec 32) (setting : Setting) :
    BitVec 32 × List (SdkCall α) :=
  if config.setting setting ≠ -1 then (setting.bit, [.set handle setting (config.argument setting)]) else (0, [])

def requestSettings (config : UserLivoxLidarConfig α) (handle : BitVec 32) : BitVec 32 × List (SdkCall α) :=
  let dataType := requestSetting config handle .dataType
  let scanPattern := requestSetting config handle .scanPattern
  let blindSpot := requestSetting config handle .blindSpot
  let dualEmit := requestSetting config handle .dualEmit
  (config.setBits ||| dataType.1 ||| scanPattern.1 ||| blindSpot.1 ||| dualEmit.1,
    dataType.2 ++ scanPattern.2 ++ blindSpot.2 ++ dualEmit.2)

def lidarInfoChangeCallback (lds : LdsLidar α) (handle : BitVec 32) : LdsLidar α × List (SdkCall α) :=
  match lds.getLidarDevice handle with
  | none =>
    match lds.cacheIndex.getFreeIndex kLivoxLidarType handle with
    | none => (lds, [])
    | some (index, cacheIndex) =>
      ({ lds with cacheIndex }.setLidar index { lds.lidars index with lidarType := kLivoxLidarType },
        [.setWorkModeNormal handle, .enableImuData handle])
  | some index =>
    let lidar := lds.lidars index
    let config := lidar.livoxConfig
    let requested := requestSettings config handle
    (lds.setLidar index { lidar with livoxConfig := { config with setBits := requested.1 } },
      requested.2 ++ [.setInstallAttitude config.handle config.extrinsicParam, .setWorkModeNormal handle,
        .enableImuData handle])

/-- What the callbacks of the four settings have in common -/
def settingCallback (setting : Setting) (lds : LdsLidar α) (status : LivoxStatus) (handle : BitVec 32) :
    LdsLidar α × List (SdkCall α) :=
  match lds.getLidarDevice handle with
  | none => (lds, [])
  | some index =>
    let lidar := lds.lidars index
    let config := lidar.livoxConfig
    match status with
    | .success =>
      let setBits := config.setBits &&& ~~~setting.bit
      (lds.setLidar index { lidar with
        livoxConfig := { config with setBits }
        connectState := if setBits = 0 then .sampling else lidar.connectState }, [])
    | .timeout => (lds, [.set handle setting (config.argument setting)])
    | .failure => (lds, [])

def setDataTypeCallback : LdsLidar α → LivoxStatus → BitVec 32 → LdsLidar α × List (SdkCall α) :=
  settingCallback .dataType

def setPatternModeCallback : LdsLidar α → LivoxStatus → BitVec 32 → LdsLidar α × List (SdkCall α) :=
  settingCallback .scanPattern

def setBlindSpotCallback : LdsLidar α → LivoxStatus → BitVec 32 → LdsLidar α × List (SdkCall α) :=
  settingCallback .blindSpot

def setDualEmitCallback : LdsLidar α → LivoxStatus → BitVec 32 → LdsLidar α × List (SdkCall α) :=
  settingCallback .dualEmit

def setAttitudeCallback (lds : LdsLidar α) (status : LivoxStatus) (handle : BitVec 32) : List (SdkCall α) :=
  match lds.getLidarDevice handle, status with
  | some index, .timeout =>
    let config := (lds.lidars index).livoxConfig
    [.setInstallAttitude config.handle config.extrinsicParam]
  | _, _ => []

def workModeChangedCallback (status : LivoxStatus) (handle : BitVec 32) : List (SdkCall α) :=
  if status = .success then [] else [.setWorkModeNormal handle]

/-- Without a response nothing is tried again. -/
def enableLivoxLidarImuDataCallback (lds : LdsLidar α) (status : LivoxStatus) (response : Bool) (handle : BitVec 32) :
    List (SdkCall α) :=
  if (lds.getLidarDevice handle).isSome && response && status = .timeout then [.enableImuData handle] else []

inductive Event where
  | lidarInfoChange (handle : BitVec 32)
  | reply (handle : BitVec 32) (asked : Asked) (status : LivoxStatus) (response : Bool)

def replied (lds : LdsLidar α) (status : LivoxStatus) (response : Bool) (handle : BitVec 32) :
    Asked → LdsLidar α × List (SdkCall α)
  | .setting .dataType => lds.setDataTypeCallback status handle
  | .setting .scanPattern => lds.setPatternModeCallback status handle
  | .setting .blindSpot => lds.setBlindSpotCallback status handle
  | .setting .dualEmit => lds.setDualEmitCallback status handle
  | .installAttitude => (lds, lds.setAttitudeCallback status handle)
  | .workMode => (lds, workModeChangedCallback status handle)
  | .imuData => (lds, lds.enableLivoxLidarImuDataCallback status response handle)

/-- The calls wait for a reply each. -/
def call (lds : LdsLidar α) (calls : List (SdkCall α)) : LdsLidar α :=
  { lds with awaited := lds.awaited ++ calls.map SdkCall.asked }

def step (lds : LdsLidar α) : Event → Option (LdsLidar α × List (SdkCall α))
  | .lidarInfoChange handle =>
    let done := lds.lidarInfoChangeCallback handle
    some (done.1.call done.2, done.2)
  | .reply handle asked status response =>
    if (handle, asked) ∈ lds.awaited then
      let done := { lds with awaited := lds.awaited.erase (handle, asked) }.replied status response handle asked
      some (done.1.call done.2, done.2)
    else none

end LdsLidar

/-- The lidars before anything is configured. Their memory is all zeros. -/
def LdsLidar.blank {α : Type} [Zero α] : LdsLidar α where
  lidars _ := { livoxConfig := ⟨0, 0, 0, 0, 0, ⟨0, 0, 0, 0, 0, 0⟩, 0⟩ }

/-- The driver from its start with a configuration file on: the SDK announces lidars
and replies to calls, in any order. -/
def ldsLidar {α : Type} [Zero α] (entries : List (LidarEntry α)) :
    Machine (LdsLidar α) LdsLidar.Event (SdkCall α) where
  initial := (entries.filterMap parseUserConfig).foldl LdsLidar.addConfig .blank
  step := LdsLidar.step

end FlightStack
