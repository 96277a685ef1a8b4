import FlightStack.CustomMessages
import FlightStack.Proofs.EndToEnd

/-! What a subscriber reads from a message of the driver is what the lidar measured. Of
the times it gets back those that the 32 bits of an offset reach. -/

namespace FlightStack.Proofs
open Driver Lddc
variable {α : Type}

theorem offset_restored (baseTime offsetTime : BitVec 64) :
    baseTime + ((offsetTime - baseTime).setWidth 32).setWidth 64 = offsetTime ↔ offsetTime - baseTime < 2 ^ 32 := by
  have whole : baseTime + ((offsetTime - baseTime).setWidth 32).setWidth 64 = offsetTime ↔
      ((offsetTime - baseTime).setWidth 32).setWidth 64 = offsetTime - baseTime := by
    rw [BitVec.eq_sub_iff_add_eq, BitVec.add_comm]
  have small : (offsetTime - baseTime).toNat < 2 ^ 64 := (offsetTime - baseTime).isLt
  rw [whole, BitVec.lt_def, ← BitVec.toNat_inj]
  simp only [BitVec.toNat_setWidth]
  constructor
  · intro same
    have cut := Nat.mod_lt (offsetTime - baseTime).toNat (show 0 < 2 ^ 32 by decide)
    have bound : (2 ^ 32 : BitVec 64).toNat = 2 ^ 32 := rfl
    omega
  · intro near
    have bound : (2 ^ 32 : BitVec 64).toNat = 2 ^ 32 := rfl
    omega

theorem requested_of_published {queueSize : BitVec 32} {transferFormat : Int} {threads : LdsThreads α}
    {history : List (Entry (LdsThreads α) (LdsThreads.Event α) (LdsThreads.Output α))}
    (run : (ldsThreads queueSize transferFormat).Run history threads) {index : Fin 32} {packet : StoragePacket α}
    (published : .published index packet ∈ history.flatMap Entry.outputs) :
    ∃ lidarData baseTime, .pushLidarData index lidarData baseTime ∈ history.map Entry.event ∧
      packet = .of lidarData baseTime ∧ ¬ packet.points.isEmpty := by
  have concluding := run_concluded run
  have pushed := run_pushed run
  have popped := path_published run
  have sent : packet ∈ (history.flatMap Entry.outputs).filterMap (publishedAt index) :=
    List.mem_filterMap.mpr ⟨_, published, if_pos rfl⟩
  rw [popped, List.mem_filter] at sent
  have stored : packet ∈ (history.flatMap Entry.outputs).filterMap (pushedAt index) := by
    rw [pushed]
    exact List.mem_append_left _ sent.1
  obtain ⟨output, out, same⟩ := List.mem_filterMap.mp stored
  have concluded : (index, packet) ∈ history.filterMap fun entry => asked entry.event := by
    rw [concluding]
    refine List.mem_append_left _ (List.mem_filterMap.mpr ⟨output, out, ?_⟩)
    cases output with
    | pushed place other =>
      obtain ⟨rfl, equal⟩ := Option.ite_none_right_eq_some.mp same
      rw [Option.some.inj equal]
      rfl
    | dropped | popped | published => cases same
  obtain ⟨entry, member, request⟩ := List.mem_filterMap.mp concluded
  have told : entry.event ∈ history.map Entry.event := List.mem_map.mpr ⟨entry, member, rfl⟩
  cases event : entry.event with
  | pushLidarData place lidarData baseTime =>
    rw [event] at request told
    obtain ⟨rfl, rfl⟩ := Prod.mk.inj (Option.some.inj request)
    exact ⟨lidarData, baseTime, told, rfl, by simpa using sent.2⟩
  | store | distribute | sampling | requestExit =>
    rw [event] at request
    cases request

theorem stored_of_told {entry : Entry (Driver α) (Event α) (Output α)} {index : Fin 32} {lidarData : PointPacket α}
    {baseTime : BitVec 64} (told : .pushLidarData index lidarData baseTime ∈ threadsTold entry) :
    (baseTime, lidarData) ∈ storedFrame entry := by
  obtain ⟨before, event, outputs, after⟩ := entry
  cases event with
  | lds =>
    obtain ⟨_, _, same⟩ := List.mem_map.mp told
    cases same
  | pub => cases told
  | store | distribute | requestExit =>
    cases List.mem_singleton.mp told
  | storagePointData =>
    simp only [threadsTold, storageTold] at told
    simp only [storedFrame]
    split at told
    next => cases told
    next first lidarPoint rest frame =>
      obtain ⟨place, _, same⟩ := Option.map_eq_some_iff.mp (Option.mem_toList.mp told)
      obtain ⟨rfl, rfl, rfl⟩ := LdsThreads.Event.pushLidarData.inj same
      simp [frame]

theorem mem_framePoints {frame : PointFrame α} {entry : BitVec 64 × PointPacket α} {point : PointXyzlt α}
    (member : entry ∈ frame) (inside : point ∈ entry.2.points) : point ∈ framePoints entry.2.handle frame :=
  List.mem_flatMap.mpr ⟨entry, List.mem_filter.mpr ⟨member, decide_eq_true rfl⟩, inside⟩

variable [Arithmetic α] {entries : List (LidarEntry α)} {publishFreq : α} {transferFormat : Int}
  {history : List (Entry (Driver α) (Event α) (Output α))} {final : Driver α} {index : Fin 32}
  {packet : StoragePacket α}

/-- A packet that is published is one of a frame. -/
theorem frame_of_published (run : (driver entries publishFreq transferFormat).Run history final)
    (published : .thread (.published index packet) ∈ history.flatMap Entry.outputs) :
    ∃ frame, .publish frame ∈ (history.flatMap Entry.outputs).flatMap pubSaid ∧ ∃ entry ∈ frame,
      packet = .of entry.2 entry.1 ∧ ¬ packet.points.isEmpty := by
  obtain ⟨moves, threads, events, outputs⟩ := threads_part.run run
  have sent : .published index packet ∈ moves.flatMap Entry.outputs := by
    rw [outputs]
    exact List.mem_flatMap.mpr ⟨_, published, List.mem_singleton.mpr rfl⟩
  obtain ⟨lidarData, baseTime, requested, same, some⟩ := requested_of_published threads sent
  rw [events] at requested
  obtain ⟨entry, member, told⟩ := List.mem_flatMap.mp requested
  have framed : (baseTime, lidarData) ∈ ((history.flatMap Entry.outputs).flatMap pubSaid).flatMap framesOf := by
    rw [run_frames run]
    exact List.mem_append_left _ (List.mem_flatMap.mpr ⟨entry, member, stored_of_told told⟩)
  obtain ⟨output, said, inside⟩ := List.mem_flatMap.mp framed
  cases output with
  | publish frame => exact ⟨frame, said, _, inside, same, some⟩
  | imu => cases inside

/-- Every point of a frame is one that a packet of the SDK came to. -/
theorem processed_of_frame {lidarExtrinsics : BitVec 32 → Option (ExtParameter α)} {config : PointCloudConfig}
    {history : List (Entry (PubHandler α) (PubHandler.Event α) (PubHandler.Output α))} {pub : PubHandler α}
    (run : (pubHandler lidarExtrinsics config).Run history pub) {frame : PointFrame α}
    (published : .publish frame ∈ history.flatMap Entry.outputs) {entry : BitVec 64 × PointPacket α}
    (member : entry ∈ frame) {point : PointXyzlt α} (inside : point ∈ entry.2.points) :
    ∃ pkt ∈ history.filterMap fun entry => packetOf entry.event,
      point ∈ LidarPubHandler.processed (extrinsicOf lidarExtrinsics pkt.handle) pkt := by
  have account := run_points run entry.2.handle
  have out : point ∈ packetPoints lidarExtrinsics entry.2.handle (history.filterMap fun entry => packetOf entry.event) := by
    rw [account]
    exact List.mem_append_left _ (List.mem_flatMap.mpr ⟨_, published, mem_framePoints member inside⟩)
  obtain ⟨pkt, sent, processed⟩ := List.mem_flatMap.mp out
  obtain ⟨queued, same⟩ := List.mem_filter.mp sent
  exact ⟨pkt, queued, of_decide_eq_true same ▸ processed⟩

theorem processed_intensity {extrinsic : ExtParameterDetailed α} {pkt : RawPacket} {point : PointXyzlt α}
    (inside : point ∈ LidarPubHandler.processed extrinsic pkt) : ∃ raw : UInt8, point.intensity = (raw.toNat : α) := by
  unfold LidarPubHandler.processed at inside
  cases kind : pkt.rawData with
  | cartesianHigh | cartesianLow | spherical =>
    rw [kind] at inside
    obtain ⟨_, _, rfl⟩ := List.mem_mapIdx.mp inside
    exact ⟨_, rfl⟩
  | unknown =>
    rw [kind] at inside
    cases inside

theorem reflectivityOf_raw (raw : UInt8) : reflectivityOf (raw.toNat : α) = raw := by
  rw [reflectivityOf, Nat.floor_natCast, UInt8.ofNat_toNat]

/-- A point as it comes out of a message -/
structure Carried (livoxMsg : Lddc.CustomMsg α) (point : PointXyzlt α) (sent : Lddc.CustomPoint α) : Prop where
  x : sent.x = point.x
  y : sent.y = point.y
  z : sent.z = point.z
  reflectivity : (sent.reflectivity.toNat : α) = point.intensity
  tag : sent.tag = point.tag
  line : sent.line = point.line
  time : livoxMsg.timeOf sent = point.offsetTime ↔ point.offsetTime - livoxMsg.timebase < 2 ^ 32

/-- The message of a packet that is published carries its points one by one, and the
number of them. The time of a point is that of the message and its offset exactly if the
point is less than 2 ^ 32 nanoseconds behind the first one. -/
theorem messages_carry (run : (driver entries publishFreq transferFormat).Run history final)
    (published : .thread (.published index packet) ∈ history.flatMap Entry.outputs) (frameId : String)
    (lidar : ConfiguredLidar α) :
    ∃ livoxMsg, publishCustomPointcloud frameId lidar packet = some livoxMsg ∧
      livoxMsg.points.length = livoxMsg.pointNum.toNat ∧
      packet.points.head?.map (·.offsetTime) = some livoxMsg.timebase ∧
      List.Forall₂ (Carried livoxMsg) packet.points livoxMsg.points := by
  obtain ⟨frame, framed, ⟨baseTime, lidarPoint⟩, member, same, some⟩ := frame_of_published run published
  obtain ⟨moves, pub, _, said⟩ := pub_part.run run
  rw [← said] at framed
  have based := (run_formed pub framed).based _ member
  have whole : packet.points.take packet.pointsNum.toNat = packet.points := by
    rw [← packet.counted, List.take_length]
  refine ⟨fillPointsToCustomMsg (initCustomMsg frameId lidar packet) packet, if_neg some, ?_, ?_, ?_⟩
  · simp [fillPointsToCustomMsg, initCustomMsg, packet.counted]
  · have first : packet.points.head? = lidarPoint.points.head? := by
      rw [same] at some ⊢
      simp only [StoragePacket.of, List.isEmpty_iff, List.take_eq_nil_iff, not_or] at some ⊢
      rw [List.head?_take, if_neg some.1]
    have timebase : packet.baseTime = baseTime := congrArg StoragePacket.baseTime same
    rw [first, based]
    simp [fillPointsToCustomMsg, initCustomMsg, some, timebase]
  · have points : (fillPointsToCustomMsg (initCustomMsg frameId lidar packet) packet).points =
        packet.points.map (customPoint packet.baseTime) := by
      rw [fillPointsToCustomMsg, initCustomMsg, List.nil_append, whole]
    have timebase : (fillPointsToCustomMsg (initCustomMsg frameId lidar packet) packet).timebase = packet.baseTime :=
      if_neg some
    rw [points, List.forall₂_map_right_iff, List.forall₂_same]
    intro point inside
    have sent : point ∈ lidarPoint.points := by
      rw [same] at inside
      exact List.mem_of_mem_take inside
    obtain ⟨_, _, processed⟩ := processed_of_frame pub framed member sent
    obtain ⟨raw, intensity⟩ := processed_intensity processed
    refine ⟨rfl, rfl, rfl, ?_, rfl, rfl, ?_⟩
    · rw [customPoint, intensity, reflectivityOf_raw]
    · rw [Lddc.CustomMsg.timeOf, timebase]
      exact offset_restored packet.baseTime point.offsetTime

theorem messages_carry_one : ∃ history final packet livoxMsg, (driver oneLidar 10 1).Run history final ∧
    .thread (.published 0 packet) ∈ history.flatMap Entry.outputs ∧
    publishCustomPointcloud "livox_frame" (final.lds.lidars 0) packet = some livoxMsg ∧
    List.Forall₂ (Carried livoxMsg) packet.points livoxMsg.points := by
  obtain ⟨history, final, stored, run, outputs, _⟩ := oneLidar_run
  rw [← oneLidarDriver_eq] at run
  have published : .thread (.published 0 (.of stored.2 stored.1)) ∈ history.flatMap Entry.outputs := by
    rw [outputs]
    simp
  obtain ⟨livoxMsg, made, _, _, carried⟩ := messages_carry run published "livox_frame" (final.lds.lidars 0)
  exact ⟨history, final, _, livoxMsg, run, published, made, carried⟩

end FlightStack.Proofs
