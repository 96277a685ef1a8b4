import FlightStack.Proofs.PointAccount

/-! With synchronised clocks the frames of a lidar depend on its own packets only:
they are what cutting their sequence by the times of its points gives. -/

namespace FlightStack.Proofs
open PubHandler
variable {α : Type}

/-- The points of a lidar: its frames, and those that are still gathered -/
abbrev Cut (α : Type) := List (List (PointXyzlt α)) × List (PointXyzlt α)

def baseTime (points : List (PointXyzlt α)) : BitVec 64 := (points.head?.map (·.offsetTime)).getD 0

def recentTime (points : List (PointXyzlt α)) : BitVec 64 := (points.getLast?.map (·.offsetTime)).getD 0

/-- A frame ends in a millisecond that the interval divides, unless it is too short. -/
def ends (config : PointCloudConfig) (points : List (PointXyzlt α)) : Bool :=
  !points.isEmpty && recentTime points / kRatioOfMsToNs != 0 &&
    recentTime points / kRatioOfMsToNs % config.publishIntervalMs == 0 &&
    !decide (recentTime points - baseTime points < config.publishIntervalTolerance)

def Cut.close (config : PointCloudConfig) (cut : Cut α) : Cut α :=
  if ends config cut.2 then (cut.1 ++ [cut.2], []) else cut

def cut (config : PointCloudConfig) (packets : List (List (PointXyzlt α))) : Cut α :=
  packets.foldl (fun cut packet => Cut.close config (cut.1, cut.2 ++ packet)) ([], [])

def framesAt (id : BitVec 32) : Output α → List (List (PointXyzlt α))
  | .publish frame => (frame.filter fun entry => entry.2.handle = id).map fun entry => entry.2.points
  | .imu .. => []

theorem cut_concat (config : PointCloudConfig) (packets : List (List (PointXyzlt α))) (packet : List (PointXyzlt α)) :
    cut config (packets ++ [packet]) = Cut.close config ((cut config packets).1, (cut config packets).2 ++ packet) := by
  simp [cut]

theorem ends_iff {config : PointCloudConfig} {points : List (PointXyzlt α)} : ends config points = true ↔
    ¬ points.isEmpty ∧ ¬ (recentTime points / kRatioOfMsToNs % config.publishIntervalMs ≠ 0 ∨
      recentTime points / kRatioOfMsToNs = 0) ∧
      ¬ recentTime points - baseTime points < config.publishIntervalTolerance := by
  simp only [ends, Bool.and_eq_true, Bool.not_eq_true', bne_iff_ne, beq_iff_eq, decide_eq_false_iff_not, not_or, ne_eq, not_not,
    Bool.not_eq_true]
  tauto

/-- What a check with synchronised clocks does to the lidars, the one it is for and the others -/
theorem checkSynced_cut {config : PointCloudConfig} {pub after : PubHandler α} {id : BitVec 32} {outputs : List (Output α)}
    (taken : pub.checkSynced config id = some (after, outputs)) (frames : List (List (PointXyzlt α))) (other : BitVec 32) :
    (frames ++ outputs.flatMap (framesAt other), (after.handler other).pointsClouds) =
      if other = id then Cut.close config (frames, (pub.handler id).pointsClouds)
      else (frames, (pub.handler other).pointsClouds) := by
  have unended (still : ends config (pub.handler id).pointsClouds = false) :
      (frames, (pub.handler other).pointsClouds) = if other = id then Cut.close config (frames, (pub.handler id).pointsClouds)
        else (frames, (pub.handler other).pointsClouds) := by
    split
    next same => simp [Cut.close, still, same]
    next => rfl
  revert taken
  fun_cases checkSynced config id pub with
  | case1 =>
    intro taken
    cases taken
  | case2 handler recentTimeMs divides early =>
    intro taken
    obtain ⟨rfl, rfl⟩ := Prod.mk.inj (Option.some.inj taken)
    rw [List.flatMap_nil, List.append_nil]
    exact unended (Bool.eq_false_iff.mpr fun ended => (ends_iff.mp ended).2.1 early)
  | case3 handler recentTimeMs divides late short =>
    intro taken
    obtain ⟨rfl, rfl⟩ := Prod.mk.inj (Option.some.inj taken)
    rw [List.flatMap_nil, List.append_nil]
    exact unended (Bool.eq_false_iff.mpr fun ended => (ends_iff.mp ended).2.2 short)
  | case4 handler recentTimeMs divides late spans empty =>
    intro taken
    obtain ⟨rfl, rfl⟩ := Prod.mk.inj (Option.some.inj taken)
    rw [List.flatMap_nil, List.append_nil]
    exact unended (Bool.eq_false_iff.mpr fun ended => (ends_iff.mp ended).1 empty)
  | case5 handler recentTimeMs divides late spans some =>
    intro taken
    obtain ⟨rfl, rfl⟩ := Prod.mk.inj (Option.some.inj taken)
    have ended : ends config (pub.handler id).pointsClouds = true := ends_iff.mpr ⟨some, late, spans⟩
    rw [handler_setHandler, Cut.close, ended, if_pos rfl, List.flatMap_singleton]
    by_cases same : other = id
    · subst same
      simp [framesAt, frameLidar, pointPacket, LidarPubHandler.getLidarPointClouds]
    · simp [framesAt, frameLidar, pointPacket, same, Ne.symm same]

variable [Arithmetic α] {lidarExtrinsics : BitVec 32 → Option (ExtParameter α)} {config : PointCloudConfig}

/-- Every call of the SDK tells of a synchronised clock. -/
def Synced : Event α → Prop
  | .onLivoxLidarPointCloud _ _ data _ => data.timeType ≠ .noSync
  | _ => True

/-- The cut of what a lidar's packets come to -/
def packetsCut (lidarExtrinsics : BitVec 32 → Option (ExtParameter α)) (config : PointCloudConfig) (id : BitVec 32)
    (packets : List RawPacket) : Cut α :=
  cut config (packets.map (LidarPubHandler.processed (extrinsicOf lidarExtrinsics id)))

/-- The packets of a lidar that are not processed yet -/
def waiting (id : BitVec 32) (pub : PubHandler α) : List RawPacket :=
  (pub.rawPacketQueue ++ pub.received.toList).filter (·.handle = id)

/-- How far a lidar has come: the frames it has and the points it gathers are the cut of
its packets. The latest of them may still have to be checked. -/
structure CutSoFar (lidarExtrinsics : BitVec 32 → Option (ExtParameter α)) (config : PointCloudConfig) (id : BitVec 32)
    (packets : List RawPacket) (frames : List (List (PointXyzlt α))) (pub : PubHandler α) : Prop where
  synced : pub.isTimestampSync = true ∨ pub.checking = none ∧ pub.rawPacketQueue = [] ∧ pub.received = none
  handled : ∃ handled, packets = handled ++ waiting id pub ∧
    packetsCut lidarExtrinsics config id handled = if pub.checking = some id
      then Cut.close config (frames, (pub.handler id).pointsClouds) else (frames, (pub.handler id).pointsClouds)

theorem CutSoFar.step {pub after : PubHandler α} {event : Event α} {outputs : List (Output α)} {id : BitVec 32}
    {packets : List RawPacket} {frames : List (List (PointXyzlt α))}
    (soFar : CutSoFar lidarExtrinsics config id packets frames pub) (held : HandlersHeld lidarExtrinsics pub)
    (synced : Synced event) (taken : (pubHandler lidarExtrinsics config).step pub event = some (after, outputs)) :
    CutSoFar lidarExtrinsics config id (packets ++ (packetOf event).toList.filter (·.handle = id))
      (frames ++ outputs.flatMap (framesAt id)) after := by
  obtain ⟨handled, split, reached⟩ := soFar.handled
  cases event with
  | onLivoxLidarPointCloud handle devType data now =>
    simp only [pubHandler, PubHandler.step] at taken
    split at taken
    next => cases taken
    next free =>
      rw [Option.not_isSome_iff_eq_none] at free
      rw [PubHandler.onLivoxLidarPointCloud] at taken
      split at taken
      next imu carried =>
        obtain ⟨rfl, rfl⟩ := Prod.mk.inj (Option.some.inj taken)
        refine ⟨.inl (decide_eq_true synced), handled, ?_, ?_⟩
        · simpa [packetOf, carried, waiting] using split
        · simpa [framesAt] using reached
      next rawData carried =>
        obtain ⟨packet, made, same⟩ := Option.map_eq_some_iff.mp taken
        obtain ⟨rfl, rfl⟩ := Prod.mk.inj same
        refine ⟨.inl (decide_eq_true synced), handled, ?_, ?_⟩
        · simp [packetOf, carried, made, split, waiting, free]
        · simpa using reached
  | enqueue =>
    obtain ⟨packet, waits, same⟩ := Option.map_eq_some_iff.mp taken
    obtain ⟨rfl, rfl⟩ := Prod.mk.inj same
    refine ⟨.inl (soFar.synced.resolve_right ?_), handled, ?_, ?_⟩
    · rintro ⟨_, _, none⟩
      cases none.symm.trans waits
    · simpa [packetOf, waiting, waits] using split
    · simpa using reached
  | rawDataProcess =>
    simp only [pubHandler, PubHandler.step] at taken
    split at taken
    next => cases taken
    next =>
      obtain ⟨processed, done, same⟩ := Option.map_eq_some_iff.mp taken
      obtain ⟨rfl, rfl⟩ := Prod.mk.inj same
      revert done
      fun_cases PubHandler.rawDataProcess lidarExtrinsics pub with
      | case1 packet rest queued idle number =>
        intro done
        obtain rfl := Option.some.inj done
        have handle : packet.handle = number := rfl
        clear_value number
        subst handle
        obtain ⟨points, extrinsic, _⟩ := held.configured packet.handle
        rw [idle, if_neg (by simp)] at reached
        refine ⟨.inl (soFar.synced.resolve_right ?_), ?_⟩
        · rintro ⟨_, none, _⟩
          cases none.symm.trans queued
        · by_cases ours : packet.handle = id
          · subst ours
            refine ⟨handled ++ [packet], ?_, ?_⟩
            · simp [packetOf, split, waiting, queued, setHandler]
            · rw [packetsCut, List.map_append, List.map_singleton, cut_concat, ← packetsCut, reached, handler_setHandler,
                if_pos rfl, LidarPubHandler.pointCloudProcess, points, extrinsic]
              simp [setHandler]
          · refine ⟨handled, ?_, ?_⟩
            · simp [packetOf, split, waiting, queued, setHandler, ours]
            · rw [reached, handler_setHandler, if_neg (Ne.symm ours)]
              simp [setHandler, ours]
      | case2 =>
        intro done
        cases done
  | checkTimer now =>
    simp only [pubHandler, PubHandler.step, PubHandler.checkTimer] at taken
    split at taken
    next => cases taken
    next other checks =>
      have on : pub.isTimestampSync = true := soFar.synced.resolve_right fun none => by cases none.1.symm.trans checks
      rw [if_pos on] at taken
      obtain ⟨checking, queue, received, sync, _⟩ := checkSynced_kept taken
      have cuts := checkSynced_cut taken frames id
      refine ⟨.inl (sync.trans on), handled, ?_, ?_⟩
      · simpa [packetOf, waiting, queue, received] using split
      · rw [checking, if_neg (by simp), cuts, reached, checks]
        by_cases ours : id = other
        · rw [if_pos ours, if_pos (congrArg some ours.symm), ours]
        · rw [if_neg ours, if_neg fun same => ours (Option.some.inj same).symm]
  | requestExit =>
    obtain ⟨rfl, rfl⟩ := Prod.mk.inj (Option.some.inj taken)
    exact ⟨soFar.synced, handled, by simpa [packetOf, waiting] using split, by simpa using reached⟩

variable {history : List (Entry (PubHandler α) (Event α) (Output α))} {pub : PubHandler α}

/-- As long as every packet tells of a synchronised clock, the frames of a lidar and the
points it gathers are the cut of those of its packets that are processed and checked,
whatever the other lidars send and however the threads take turns. -/
theorem synced_frames_cut (run : (pubHandler lidarExtrinsics config).Run history pub)
    (synced : ∀ entry ∈ history, Synced entry.event) (id : BitVec 32) :
    ∃ handled, (history.filterMap fun entry => packetOf entry.event).filter (·.handle = id) = handled ++ waiting id pub ∧
      (pub.checking ≠ some id → ((history.flatMap Entry.outputs).flatMap (framesAt id), (pub.handler id).pointsClouds) =
        packetsCut lidarExtrinsics config id handled) := by
  have soFar : CutSoFar lidarExtrinsics config id ((history.filterMap fun entry => packetOf entry.event).filter (·.handle = id))
      ((history.flatMap Entry.outputs).flatMap (framesAt id)) pub := by
    induction run with
    | refl => exact ⟨.inr ⟨rfl, rfl, rfl⟩, [], rfl, rfl⟩
    | @snoc state after history event outputs earlier taken ih =>
      rw [List.forall_mem_append] at synced
      have next := (ih synced.1).step (run_handlers earlier) (synced.2 _ (List.mem_singleton.mpr rfl)) taken
      rw [filterMap_snoc, List.filter_append]
      simpa using next
  obtain ⟨handled, split, reached⟩ := soFar.handled
  refine ⟨handled, split, fun checked => ?_⟩
  rw [reached, if_neg checked]

theorem synced_frames_cut_two : ∃ history pub, (pubHandler noExtrinsics tenHertz).Run history pub ∧
    ((history.flatMap Entry.outputs).flatMap (framesAt 7)).map (·.map (·.offsetTime)) = [[1, 100000000]] ∧
    ∃ handled, (history.filterMap fun entry => packetOf entry.event).filter (·.handle = 7) = handled ++ waiting 7 pub ∧
      (pub.checking ≠ some 7 → ((history.flatMap Entry.outputs).flatMap (framesAt 7), (pub.handler 7).pointsClouds) =
        packetsCut noExtrinsics tenHertz 7 handled) := by
  have recorded : (pubHandler noExtrinsics tenHertz).record (pubHandler noExtrinsics tenHertz).initial
    (onePacketEvents .gps 1 0 ++ onePacketEvents .gps 100000000 0) = some ([_, _, _, _, _, _, _, _], _) := rfl
  have run := Machine.path_of_record recorded
  refine ⟨_, _, run, rfl, synced_frames_cut run ?_ 7⟩
  simp [Synced, onePacket]

end FlightStack.Proofs
