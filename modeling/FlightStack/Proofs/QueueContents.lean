import Mathlib.Data.Nat.Log
import FlightStack.Library.LockStep
import FlightStack.LidarQueue

/-! A lidar's queue holds its packets in the order of their arrival, however often
its counters wrap around. -/

namespace FlightStack.Proofs
open LidarDataQueue
variable {α : Type}

/-- `InitQueue` makes the least power of two of places that is enough for what it is
asked for, as far as 32 bits go. -/
def placeBits (queueSize : BitVec 32) : Nat := min 31 (Nat.clog 2 queueSize.toNat)

def capacity (queueSize : BitVec 32) : Nat := 2 ^ placeBits queueSize

private theorem shift_toNat {bits : Nat} (narrow : bits < 32) : ((1 : BitVec 32) <<< bits).toNat = 2 ^ bits := by
  have small : 2 ^ bits < 2 ^ 32 := Nat.pow_lt_pow_right (by decide) narrow
  rw [BitVec.toNat_shiftLeft, show (1 : BitVec 32).toNat = 1 from rfl, Nat.shiftLeft_eq, Nat.one_mul,
    Nat.mod_eq_of_lt small]

private theorem le_shift_iff {size : BitVec 32} {bits : Nat} (narrow : bits < 32) :
    size ≤ (1 : BitVec 32) <<< bits ↔ Nat.clog 2 size.toNat ≤ bits := by
  rw [BitVec.le_def, shift_toNat narrow]
  exact (Nat.clog_le_iff_le_pow (by decide)).symm

theorem toNat_roundupPowerOf2 (size : BitVec 32) : (roundupPowerOf2 size).toNat = capacity size := by
  rw [roundupPowerOf2, List.find?_map, capacity, placeBits]
  by_cases small : Nat.clog 2 size.toNat ≤ 31
  · have found : (List.range 32).find? (fun bits => decide (size ≤ (1 : BitVec 32) <<< bits)) =
        some (Nat.clog 2 size.toNat) := by
      rw [List.find?_range_eq_some]
      refine ⟨by simpa using (le_shift_iff (by omega)).mpr le_rfl, List.mem_range.mpr (by omega), fun bits below => ?_⟩
      have fails : ¬ size ≤ (1 : BitVec 32) <<< bits := (le_shift_iff (by omega)).not.mpr (by omega)
      simpa using fails
    rw [Function.comp_def, found, Option.map_some, Option.getD_some, shift_toNat (by omega), min_eq_right small]
  · have missing : (List.range 32).find? (fun bits => decide (size ≤ (1 : BitVec 32) <<< bits)) = none := by
      rw [List.find?_range_eq_none]
      intro bits below
      have fails : ¬ size ≤ (1 : BitVec 32) <<< bits := (le_shift_iff below).not.mpr (by omega)
      simpa using fails
    rw [Function.comp_def, missing, min_eq_left (by omega)]
    rfl

theorem toNat_isPowerOf2 {size : BitVec 32} (power : isPowerOf2 size) : size.toNat = capacity size := by
  rw [isPowerOf2, Bool.and_eq_true, bne_iff_ne, beq_iff_eq] at power
  obtain ⟨nonzero, masked⟩ := power
  have positive : size.toNat ≠ 0 := fun zero => nonzero (BitVec.eq_of_toNat_eq zero)
  have less : (size - 1).toNat = size.toNat - 1 := BitVec.toNat_sub_of_le (by bv_omega)
  have bare : size.toNat &&& (size.toNat - 1) = 0 := by
    rw [← less, ← BitVec.toNat_and, masked]
    rfl
  obtain ⟨bits, equal⟩ := (Nat.and_sub_one_eq_zero_iff_isPowerOfTwo positive).mp bare
  have narrow : bits < 32 := (Nat.pow_lt_pow_iff_right (by decide)).mp (equal ▸ size.isLt)
  rw [capacity, placeBits, equal, Nat.clog_pow _ _ (by decide), min_eq_right (by omega)]

/-- The cells and counters of a queue, as a ring buffer. -/
def ring (queue : LidarDataQueue α) : Ring 32 (StoragePacket α) :=
  ⟨queue.storagePacket.getD [], queue.mask, queue.rdIdx, queue.wrIdx⟩

def pending (queue : LidarDataQueue α) : List (StoragePacket α) := (ring queue).contents

/-- A queue that was initialised with `2 ^ bits` places and used by the functions of the queue. -/
structure Usable (queue : LidarDataQueue α) (bits : Nat) : Prop where
  allocated : queue.storagePacket.isSome
  size : queue.size.toNat = 2 ^ bits
  sound : (ring queue).Sound bits

theorem used_initQueue (queueSize : BitVec 32) : (ring (initQueue queueSize : LidarDataQueue α)).used = 0 :=
  Ring.used_eq_zero_iff.mpr rfl

theorem pending_initQueue (queueSize : BitVec 32) : pending (initQueue queueSize : LidarDataQueue α) = [] :=
  Ring.contents_eq_nil (used_initQueue queueSize)

theorem usable_initQueue (queueSize : BitVec 32) :
    Usable (initQueue queueSize : LidarDataQueue α) (placeBits queueSize) := by
  have size : (initQueue queueSize : LidarDataQueue α).size.toNat = capacity queueSize := by
    rw [initQueue]
    split
    next power => exact toNat_isPowerOf2 power
    next => exact toNat_roundupPowerOf2 queueSize
  have positive : (1 : BitVec 32) ≤ (initQueue queueSize : LidarDataQueue α).size := by
    rw [BitVec.le_def, size]
    exact Nat.two_pow_pos _
  exact {
    allocated := rfl
    size
    sound := {
      narrow := by
        rw [placeBits]
        omega
      length := (List.length_replicate ..).trans size
      mask := by
        rw [← capacity, ← size]
        exact BitVec.toNat_sub_of_le positive
      bounded := (used_initQueue queueSize).trans_le (Nat.zero_le _) } }

namespace Usable
variable {queue : LidarDataQueue α} {bits : Nat}

theorem length_pending (usable : Usable queue bits) : (pending queue).length = (ring queue).used :=
  usable.sound.length_contents

theorem length_pending_le (usable : Usable queue bits) : (pending queue).length ≤ 2 ^ bits :=
  usable.length_pending.trans_le usable.sound.bounded

theorem isFull_iff (usable : Usable queue bits) : queue.queueIsFull ↔ (pending queue).length = 2 ^ bits := by
  rw [usable.length_pending, ← usable.sound.full_iff]
  exact decide_eq_true_iff

theorem isEmpty_iff (usable : Usable queue bits) : queue.queueIsEmpty ↔ pending queue = [] := by
  rw [← List.length_eq_zero_iff, usable.length_pending, Ring.used_eq_zero_iff]
  exact beq_iff_eq

theorem room (usable : Usable queue bits) (few : (pending queue).length < 2 ^ bits) : (ring queue).used < 2 ^ bits :=
  usable.length_pending ▸ few

theorem toNat_usedSize (usable : Usable queue bits) : queue.queueUsedSize.toNat = (pending queue).length :=
  usable.length_pending.symm

theorem toNat_unusedSize (usable : Usable queue bits) :
    queue.queueUnusedSize.toNat = 2 ^ bits - (pending queue).length := by
  rw [queueUnusedSize, BitVec.toNat_sub_of_le, usable.size, usable.toNat_usedSize]
  rw [BitVec.le_def, usable.size, usable.toNat_usedSize]
  exact usable.length_pending_le

/-- A packet can be written where there is room, and is not seen before it is counted. -/
theorem writePacket (usable : Usable queue bits) (room : (pending queue).length < 2 ^ bits) (packet : StoragePacket α) :
    ∃ written, queue.writePacket packet = some written ∧ Usable written bits ∧ pending written = pending queue ∧
      (ring written).cells[(ring written).cell (ring written).back]? = some packet := by
  obtain ⟨packets, stored⟩ := Option.isSome_iff_exists.mp usable.allocated
  have same : ring { queue with storagePacket := some (packets.set (queue.wrIdx &&& queue.mask).toNat packet) } =
      (ring queue).fill packet := by
    simp [ring, Ring.fill, Ring.cell, stored]
  have inside := usable.sound.cell_lt (ring queue).back
  refine ⟨{ queue with storagePacket := some (packets.set (queue.wrIdx &&& queue.mask).toNat packet) }, ?_, ?_, ?_, ?_⟩
  · simp only [ring, Ring.cell, stored, Option.getD_some] at inside
    simp only [LidarDataQueue.writePacket, stored, Option.bind_some, inside, if_true]
  · exact ⟨rfl, usable.size, same ▸ usable.sound.fill packet⟩
  · rw [pending, same]
    exact usable.sound.fill_contents (usable.room room) packet
  · rw [same]
    exact usable.sound.filled packet

theorem advanceWrite (usable : Usable queue bits) (room : (pending queue).length < 2 ^ bits) {packet : StoragePacket α}
    (written : (ring queue).cells[(ring queue).cell (ring queue).back]? = some packet) :
    Usable queue.advanceWrite bits ∧ pending queue.advanceWrite = pending queue ++ [packet] :=
  ⟨⟨usable.allocated, usable.size, usable.sound.count (usable.room room)⟩,
    usable.sound.count_contents (usable.room room) written⟩

theorem queuePushAny (usable : Usable queue bits) (room : (pending queue).length < 2 ^ bits) (data : PointPacket α)
    (baseTime : BitVec 64) :
    ∃ pushed, queue.queuePushAny data baseTime = some pushed ∧ Usable pushed bits ∧
      pending pushed = pending queue ++ [.of data baseTime] := by
  obtain ⟨written, done, kept, same, filled⟩ := usable.writePacket room (.of data baseTime)
  obtain ⟨counted, appended⟩ := kept.advanceWrite (by rwa [same]) filled
  exact ⟨written.advanceWrite, congrArg (Option.map _) done, counted, by rw [appended, same]⟩

theorem frontPacket (usable : Usable queue bits) (some : pending queue ≠ []) :
    ∃ packet, queue.frontPacket = .some packet ∧ pending queue = packet :: pending queue.queuePopUpdate := by
  have used : 0 < (ring queue).used := by
    rw [← usable.length_pending]
    exact List.length_pos_iff.mpr some
  obtain ⟨packet, held, split⟩ := usable.sound.contents_eq_cons used
  obtain ⟨packets, stored⟩ := Option.isSome_iff_exists.mp usable.allocated
  refine ⟨packet, ?_, split⟩
  simp only [ring, stored, Option.getD_some] at held
  rw [LidarDataQueue.frontPacket, stored]
  exact held

theorem queuePopUpdate (usable : Usable queue bits) (some : pending queue ≠ []) : Usable queue.queuePopUpdate bits := by
  have used : 0 < (ring queue).used := by
    rw [← usable.length_pending]
    exact List.length_pos_iff.mpr some
  exact ⟨usable.allocated, usable.size, usable.sound.skip used⟩

theorem queuePop (usable : Usable queue bits) {packet : StoragePacket α} {rest : List (StoragePacket α)}
    (split : pending queue = packet :: rest) :
    ∃ popped, queue.queuePop = some (packet, popped) ∧ Usable popped bits ∧ pending popped = rest := by
  have nonempty : pending queue ≠ [] := by simp [split]
  obtain ⟨first, copied, divided⟩ := usable.frontPacket nonempty
  obtain ⟨rfl, rfl⟩ := List.cons_eq_cons.mp (split.symm.trans divided)
  refine ⟨queue.queuePopUpdate, ?_, usable.queuePopUpdate nonempty, rfl⟩
  rw [LidarDataQueue.queuePop, if_neg (usable.isEmpty_iff.not.mpr nonempty), copied]
  rfl

theorem resetQueue (usable : Usable queue bits) : Usable queue.resetQueue bits ∧ pending queue.resetQueue = [] := by
  have none : (ring queue.resetQueue).used = 0 := Ring.used_eq_zero_iff.mpr rfl
  exact ⟨⟨usable.allocated, usable.size, ⟨usable.sound.narrow, usable.sound.length, usable.sound.mask, none.trans_le (Nat.zero_le _)⟩⟩,
    Ring.contents_eq_nil none⟩

end Usable

/-- What a lidar's queue is for: the packets in order, up to so many. -/
def boundedFifo (places : Nat) : Machine (List (StoragePacket α)) (Request α) (Answer α) where
  initial := []
  step packets
    | .push data baseTime =>
      if packets.length = places then some (packets, [.full]) else some (packets ++ [.of data baseTime], [.pushed])
    | .pop => some (packets.tail, [(packets.head?.map Answer.popped).getD .empty])
    | .sizes => some (packets, [.sizes (.ofNat 32 packets.length) (.ofNat 32 (places - packets.length))])
    | .reset => some ([], [])

private theorem ofNat_toNat {word : BitVec 32} {value : Nat} (same : word.toNat = value) : word = .ofNat 32 value := by
  rw [← same, BitVec.ofNat_toNat, BitVec.setWidth_eq]

theorem queue_lockStep (queueSize : BitVec 32) :
    Machine.LockStep (lidarDataQueue (α := α) queueSize) (boundedFifo (capacity queueSize)) fun queue packets =>
      Usable queue (placeBits queueSize) ∧ pending queue = packets where
  initial := ⟨usable_initQueue queueSize, pending_initQueue queueSize⟩
  step := by
    intro queue packets request related
    obtain ⟨usable, rfl⟩ := related
    cases request with
    | push data baseTime =>
      by_cases full : (pending queue).length = capacity queueSize
      · exact ⟨queue, _, _, if_pos (usable.isFull_iff.mpr full), if_pos full, usable, rfl⟩
      · have room := lt_of_le_of_ne usable.length_pending_le full
        obtain ⟨pushed, done, kept, appended⟩ := usable.queuePushAny room data baseTime
        refine ⟨pushed, [.pushed], _, ?_, if_neg full, kept, appended⟩
        exact (if_neg (usable.isFull_iff.not.mpr full)).trans (congrArg (Option.map _) done)
    | pop =>
      rcases nothing : pending queue with _ | ⟨packet, rest⟩
      · exact ⟨queue, _, _, if_pos (usable.isEmpty_iff.mpr nothing), rfl, usable, nothing⟩
      · obtain ⟨popped, done, kept, same⟩ := usable.queuePop nothing
        refine ⟨popped, [.popped packet], _, ?_, rfl, kept, same⟩
        exact (if_neg (by simp [usable.isEmpty_iff, nothing])).trans (congrArg (Option.map _) done)
    | sizes =>
      refine ⟨queue, _, _, rfl, ?_, usable, rfl⟩
      rw [ofNat_toNat usable.toNat_usedSize, ofNat_toNat usable.toNat_unusedSize]
      rfl
    | reset => exact ⟨queue.resetQueue, _, _, rfl, rfl, usable.resetQueue⟩

/-- For any sequence of pushes, pops, looks at the sizes and resets, however long and
so however often the counters wrap around. -/
theorem queue_is_fifo (queueSize : BitVec 32) (requests : List (Request α)) :
    ∃ answers, (lidarDataQueue queueSize).answers (.initQueue queueSize) requests = some answers ∧
      (boundedFifo (capacity queueSize)).answers [] requests = some answers :=
  (queue_lockStep queueSize).answers requests

end FlightStack.Proofs
