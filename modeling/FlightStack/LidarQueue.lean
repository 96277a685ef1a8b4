import FlightStack.Arithmetic
import FlightStack.Library.Machine
import FlightStack.Library.RingBuffer

/-! The packets of the Livox driver and the queue that each lidar keeps them in
between the thread that stores them and the thread that publishes them. -/

namespace FlightStack

/-- `PointXyzlt`, whose `offset_time` is the time of the point in nanoseconds -/
structure PointXyzlt (α : Type) where
  x : α
  y : α
  z : α
  intensity : α
  tag : UInt8
  line : UInt8
  offsetTime : BitVec 64

/-- The source's `PointPacket`. It points to its points, at least as many as it counts. -/
structure PointPacket (α : Type) where
  handle : BitVec 32
  lidarType : BitVec 8
  pointsNum : BitVec 32
  points : List (PointXyzlt α)
  counted : pointsNum.toNat ≤ points.length

/-- `StoragePacket`, as far as it is written. -/
structure StoragePacket (α : Type) where
  baseTime : BitVec 64
  pointsNum : BitVec 32
  points : List (PointXyzlt α)
  counted : points.length = pointsNum.toNat

/-- `LidarDataQueue`. There are no packets as long as the pointer to them is null. -/
structure LidarDataQueue (α : Type) where
  storagePacket : Option (List (StoragePacket α)) := none
  rdIdx : BitVec 32 := 0
  wrIdx : BitVec 32 := 0
  mask : BitVec 32 := 0
  size : BitVec 32 := 0

variable {α : Type}

def isPowerOf2 (size : BitVec 32) : Bool := size != 0 && size &&& (size - 1) == 0

/-- The loop leaves the last power where it does not break. -/
def roundupPowerOf2 (size : BitVec 32) : BitVec 32 :=
  (((List.range 32).map fun i => (1 : BitVec 32) <<< i).find? fun power2Val => decide (size ≤ power2Val)).getD (1 <<< 31)

/-- What the queue keeps of a packet. -/
def StoragePacket.of (data : PointPacket α) (baseTime : BitVec 64) : StoragePacket α where
  baseTime := baseTime
  pointsNum := data.pointsNum
  points := data.points.take data.pointsNum.toNat
  counted := List.length_take_of_le data.counted

namespace LidarDataQueue

def initQueue (queueSize : BitVec 32) : LidarDataQueue α :=
  let size := if isPowerOf2 queueSize then queueSize else roundupPowerOf2 queueSize
  { storagePacket := some (List.replicate size.toNat ⟨0, 0, [], rfl⟩), rdIdx := 0, wrIdx := 0, mask := size - 1, size }

def resetQueue (queue : LidarDataQueue α) : LidarDataQueue α := { queue with rdIdx := 0, wrIdx := 0 }

def queueUsedSize (queue : LidarDataQueue α) : BitVec 32 := queue.wrIdx - queue.rdIdx

def queueUnusedSize (queue : LidarDataQueue α) : BitVec 32 := queue.size - queue.queueUsedSize

def queueIsFull (queue : LidarDataQueue α) : Bool := queue.mask < queue.wrIdx - queue.rdIdx

def queueIsEmpty (queue : LidarDataQueue α) : Bool := queue.rdIdx == queue.wrIdx

/-- The copy that `QueuePrePop` makes. There is none of a packet outside the storage. -/
def frontPacket (queue : LidarDataQueue α) : Option (StoragePacket α) :=
  queue.storagePacket.bind fun packets => packets[(queue.rdIdx &&& queue.mask).toNat]?

def queuePopUpdate (queue : LidarDataQueue α) : LidarDataQueue α := { queue with rdIdx := queue.rdIdx + 1 }

/-- The part of `QueuePushAny` that writes the packet, if it is in the storage. -/
def writePacket (queue : LidarDataQueue α) (packet : StoragePacket α) : Option (LidarDataQueue α) :=
  let wrIdx := (queue.wrIdx &&& queue.mask).toNat
  queue.storagePacket.bind fun packets =>
    if wrIdx < packets.length then some { queue with storagePacket := some (packets.set wrIdx packet) } else none

def advanceWrite (queue : LidarDataQueue α) : LidarDataQueue α := { queue with wrIdx := queue.wrIdx + 1 }

def queuePushAny (queue : LidarDataQueue α) (data : PointPacket α) (baseTime : BitVec 64) : Option (LidarDataQueue α) :=
  (queue.writePacket (.of data baseTime)).map advanceWrite

/-- Its callers do not go on where `QueuePop` fails. -/
def queuePop (queue : LidarDataQueue α) : Option (StoragePacket α × LidarDataQueue α) :=
  if queue.queueIsEmpty then none else queue.frontPacket.map fun packet => (packet, queue.queuePopUpdate)

/-- What the threads ask of a queue. A packet is only pushed where there is room. -/
inductive Request (α : Type) where
  | push (data : PointPacket α) (baseTime : BitVec 64)
  | pop
  | sizes
  | reset

inductive Answer (α : Type) where
  | pushed
  | full
  | popped (packet : StoragePacket α)
  | empty
  | sizes (used unused : BitVec 32)

def answer (queue : LidarDataQueue α) : Request α → Option (LidarDataQueue α × List (Answer α))
  | .push data baseTime =>
    if queue.queueIsFull then some (queue, [.full])
    else (queue.queuePushAny data baseTime).map fun pushed => (pushed, [.pushed])
  | .pop =>
    if queue.queueIsEmpty then some (queue, [.empty])
    else queue.queuePop.map fun taken => (taken.2, [.popped taken.1])
  | .sizes => some (queue, [.sizes queue.queueUsedSize queue.queueUnusedSize])
  | .reset => some (queue.resetQueue, [])

end LidarDataQueue

/-- A queue from its `InitQueue` on. -/
def lidarDataQueue (queueSize : BitVec 32) :
    Machine (LidarDataQueue α) (LidarDataQueue.Request α) (LidarDataQueue.Answer α) where
  initial := .initQueue queueSize
  step := LidarDataQueue.answer

/-- `CalculatePacketQueueSize` -/
def calculatePacketQueueSize [Arithmetic α] (publishFreq : α) : BitVec 32 :=
  if 10 < publishFreq then BitVec.ofNat 32 ⌊publishFreq⌋₊ + 1 else 10

end FlightStack
