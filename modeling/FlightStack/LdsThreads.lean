import Mathlib.Logic.Function.Basic
import FlightStack.LidarQueue

/-! The thread that stores packets and the thread that publishes them, one access to
what they share at a time. The two take turns in any order; the callbacks of the
configuration and the end of the node come in between. -/

namespace FlightStack

inductive LidarConnectState where
  | off
  | on
  | config
  | sampling
  deriving DecidableEq, Repr

/-- `LidarDevice`, as far as both threads use it -/
structure LidarDevice (α : Type) where
  connectState : LidarConnectState := .off
  data : LidarDataQueue α := {}

/-- Where the storing thread is in `PushLidarData` -/
inductive Storing (α : Type) where
  | idle
  | entered (index : Fin 32) (lidarData : PointPacket α) (baseTime : BitVec 64)
  | testing (index : Fin 32) (lidarData : PointPacket α) (baseTime : BitVec 64)
  | writing (index : Fin 32) (lidarData : PointPacket α) (baseTime : BitVec 64)
  | counting (index : Fin 32) (lidarData : PointPacket α) (baseTime : BitVec 64)
  | stored (index : Fin 32)
  | getCount
  | signal

/-- Where the publishing thread is in `DistributePointCloudData` and what that calls -/
inductive Distributing (α : Type) where
  | entered
  | waiting
  | visiting (index : Nat)
  | polling (index : Fin 32)
  | publishing (index : Fin 32)
  | popping (index : Fin 32)
  | copied (index : Fin 32) (packet : StoragePacket α)

structure LdsThreads (α : Type) where
  lidars : Fin 32 → LidarDevice α := fun _ => {}
  pcdSemaphore : Nat := 0
  requestExit : Bool := false
  storing : Storing α := .idle
  distributing : Distributing α := .entered

namespace LdsThreads
variable {α : Type}

inductive Event (α : Type) where
  | pushLidarData (index : Fin 32) (lidarData : PointPacket α) (baseTime : BitVec 64)
  | store
  | distribute
  | sampling (index : Fin 32)
  | requestExit

inductive Output (α : Type) where
  | pushed (index : Fin 32) (packet : StoragePacket α)
  | dropped (index : Fin 32) (packet : StoragePacket α)
  | popped (index : Fin 32) (packet : StoragePacket α)
  | published (index : Fin 32) (packet : StoragePacket α)

def setData (threads : LdsThreads α) (index : Fin 32) (data : LidarDataQueue α) : LdsThreads α :=
  { threads with lidars := Function.update threads.lidars index { threads.lidars index with data } }

def data (threads : LdsThreads α) (index : Fin 32) : LidarDataQueue α := (threads.lidars index).data

/-- One access of the storing thread. `queueSize` is what `CalculatePacketQueueSize` gives. -/
def store (queueSize : BitVec 32) (threads : LdsThreads α) : Option (LdsThreads α × List (Output α)) :=
  match threads.storing with
  | .idle => none
  | .entered index lidarData baseTime =>
    let allocated :=
      if (threads.data index).storagePacket.isNone then threads.setData index (.initQueue queueSize) else threads
    some ({ allocated with storing := .testing index lidarData baseTime }, [])
  | .testing index lidarData baseTime =>
    if (threads.data index).queueIsFull then
      some ({ threads with storing := .getCount }, [.dropped index (.of lidarData baseTime)])
    else some ({ threads with storing := .writing index lidarData baseTime }, [])
  | .writing index lidarData baseTime =>
    ((threads.data index).writePacket (.of lidarData baseTime)).map fun data =>
      ({ threads.setData index data with storing := .counting index lidarData baseTime }, [])
  | .counting index lidarData baseTime =>
    some ({ threads.setData index (threads.data index).advanceWrite with storing := .stored index },
      [.pushed index (.of lidarData baseTime)])
  | .stored index =>
    some ({ threads with storing := if (threads.data index).queueIsEmpty then .idle else .getCount }, [])
  | .getCount => some ({ threads with storing := if threads.pcdSemaphore ≤ 0 then .signal else .idle }, [])
  | .signal => some ({ threads with pcdSemaphore := threads.pcdSemaphore + 1, storing := .idle }, [])

/-- The formats that `PollingLidarPointCloudData` takes packets for: `kPointCloud2Msg` and
`kLivoxCustomMsg`. `PublishPclMsg` returns at once under ROS 2. -/
def takesPackets (transferFormat : Int) : Bool := transferFormat == 0 || transferFormat == 1

/-- One access of the publishing thread. -/
def distribute (transferFormat : Int) (threads : LdsThreads α) : Option (LdsThreads α × List (Output α)) :=
  match threads.distributing with
  | .entered => some ({ threads with distributing := if threads.requestExit then .entered else .waiting }, [])
  | .waiting =>
    if 0 < threads.pcdSemaphore then
      some ({ threads with pcdSemaphore := threads.pcdSemaphore - 1, distributing := .visiting 0 }, [])
    else none
  | .visiting i =>
    if inside : i < 32 then
      let lidar := threads.lidars ⟨i, inside⟩
      if lidar.connectState ≠ .sampling ∨ lidar.data.storagePacket.isNone then
        some ({ threads with distributing := .visiting (i + 1) }, [])
      else some ({ threads with distributing := .polling ⟨i, inside⟩ }, [])
    else some ({ threads with distributing := .entered }, [])
  | .polling index =>
    if threads.requestExit ∨ (threads.data index).queueIsEmpty then
      some ({ threads with distributing := .visiting (index + 1) }, [])
    else if takesPackets transferFormat then some ({ threads with distributing := .publishing index }, [])
    else some (threads, [])
  | .publishing index =>
    some ({ threads with
      distributing := if (threads.data index).queueIsEmpty then .polling index else .popping index }, [])
  | .popping index =>
    if (threads.data index).queueIsEmpty then some ({ threads with distributing := .publishing index }, [])
    else (threads.data index).frontPacket.map fun packet => ({ threads with distributing := .copied index packet }, [])
  | .copied index packet =>
    some ({ threads.setData index (threads.data index).queuePopUpdate with distributing := .publishing index },
      .popped index packet :: if packet.points.isEmpty then [] else [.published index packet])

def step (queueSize : BitVec 32) (transferFormat : Int) (threads : LdsThreads α) :
    Event α → Option (LdsThreads α × List (Output α))
  | .pushLidarData index lidarData baseTime =>
    match threads.storing with
    | .idle => some ({ threads with storing := .entered index lidarData baseTime }, [])
    | _ => none
  | .store => threads.store queueSize
  | .distribute => threads.distribute transferFormat
  | .sampling index =>
    some ({ threads with
      lidars := Function.update threads.lidars index { threads.lidars index with connectState := .sampling } }, [])
  | .requestExit => some ({ threads with requestExit := true }, [])

end LdsThreads

def ldsThreads {α : Type} (queueSize : BitVec 32) (transferFormat : Int) :
    Machine (LdsThreads α) (LdsThreads.Event α) (LdsThreads.Output α) where
  initial := {}
  step := LdsThreads.step queueSize transferFormat

end FlightStack
