import FlightStack.Library.LockStep
import FlightStack.PubHandler

/-! Every point of every packet is published once, in order, in a frame of its lidar. -/

namespace FlightStack.Proofs
open PubHandler
variable {α : Type}

theorem insertLidar_ordered {lidars : List (BitVec 32)} (ordered : lidars.Pairwise (· < ·)) (id : BitVec 32) :
    (insertLidar lidars id).Pairwise (· < ·) := by
  rw [insertLidar]
  split
  next => exact ordered
  next absent =>
    have sorted := (ordered.imp BitVec.le_of_lt).orderedInsert id
    have distinct : (lidars.orderedInsert (· ≤ ·) id).Nodup :=
      (List.perm_orderedInsert ..).nodup_iff.mpr (List.nodup_cons.mpr ⟨by simpa using absent, ordered.imp BitVec.ne_of_lt⟩)
    exact (sorted.and distinct).imp fun both => BitVec.lt_of_le_ne both.1 both.2

theorem mem_insertLidar {lidars : List (BitVec 32)} {id other : BitVec 32} :
    other ∈ insertLidar lidars id ↔ other = id ∨ other ∈ lidars := by
  rw [insertLidar]
  split
  next present => simp +contextual [List.contains_iff_mem.mp present]
  next => exact List.mem_orderedInsert _

theorem handler_setHandler (pub : PubHandler α) (id other : BitVec 32) (handler : LidarPubHandler α) :
    (pub.setHandler id handler).handler other = if other = id then handler else pub.handler other :=
  Function.update_apply ..

/-- The points of a lidar in a frame -/
def framePoints (id : BitVec 32) (frame : PointFrame α) : List (PointXyzlt α) :=
  (frame.filter fun entry => entry.2.handle = id).flatMap fun entry => entry.2.points

theorem framePoints_append (id : BitVec 32) (first rest : PointFrame α) :
    framePoints id (first ++ rest) = framePoints id first ++ framePoints id rest := by
  simp [framePoints]

theorem framePoints_frameLidar (pub : PubHandler α) (id handle : BitVec 32) :
    framePoints id [pub.frameLidar handle] = if handle = id then (pub.handler handle).pointsClouds else [] := by
  by_cases same : handle = id
  · simp [framePoints, frameLidar, pointPacket, LidarPubHandler.getLidarPointClouds, same]
  · simp [framePoints, frameLidar, pointPacket, same]

/-- What a frame must be to be stored as it is meant. -/
structure WellFormed (frame : PointFrame α) : Prop where
  based : ∀ entry ∈ frame, entry.2.points.head?.map (·.offsetTime) = some entry.1
  typed : ∀ entry ∈ frame, entry.2.lidarType = kLivoxLidarType ∧ entry.2.pointsNum = BitVec.ofNat 32 entry.2.points.length
  apart : frame.Pairwise fun first second => first.2.handle < second.2.handle
  fits : frame.length ≤ kMaxSourceLidar

theorem frameLidar_based {pub : PubHandler α} {handle : BitVec 32} (some : ¬ (pub.handler handle).pointsClouds.isEmpty) :
    (pub.frameLidar handle).2.points.head?.map (·.offsetTime) = .some (pub.frameLidar handle).1 := by
  simp only [frameLidar, pointPacket, LidarPubHandler.getLidarPointClouds, LidarPubHandler.getLidarBaseTime]
  cases points : (pub.handler handle).pointsClouds with
  | nil => simp [points] at some
  | cons => rfl

theorem gather_wellFormed {pub : PubHandler α} {handles : List (BitVec 32)} {frame gathered : PointFrame α}
    (formed : WellFormed frame) (ordered : handles.Pairwise (· < ·))
    (before : ∀ entry ∈ frame, ∀ handle ∈ handles, entry.2.handle < handle)
    (done : pub.gather handles frame = some gathered) : WellFormed gathered := by
  induction handles generalizing frame with
  | nil => exact Option.some.inj done ▸ formed
  | cons handle rest ih =>
    rw [gather] at done
    split at done
    next room =>
      rw [List.pairwise_cons] at ordered
      split at done
      next => exact ih formed ordered.2 (fun entry member other later => before entry member other (.tail _ later)) done
      next some =>
        refine ih ⟨?_, ?_, ?_, ?_⟩ ordered.2 ?_ done
        · exact List.forall_mem_append.mpr ⟨formed.based, List.forall_mem_singleton.mpr (frameLidar_based some)⟩
        · exact List.forall_mem_append.mpr ⟨formed.typed, List.forall_mem_singleton.mpr ⟨rfl, rfl⟩⟩
        · refine List.pairwise_append.mpr ⟨formed.apart, List.pairwise_singleton .., fun entry member last same => ?_⟩
          rw [List.mem_singleton.mp same]
          exact before entry member handle List.mem_cons_self
        · rw [List.length_append]
          exact room
        · intro entry member other later
          rcases List.mem_append.mp member with earlier | last
          · exact before entry earlier other (.tail _ later)
          · rw [List.mem_singleton.mp last]
            exact ordered.1 other later
    next => cases done

theorem gather_points {pub : PubHandler α} {handles : List (BitVec 32)} {frame gathered : PointFrame α}
    (ordered : handles.Pairwise (· < ·)) (done : pub.gather handles frame = some gathered) (id : BitVec 32) :
    framePoints id gathered = framePoints id frame ++ if id ∈ handles then (pub.handler id).pointsClouds else [] := by
  induction handles generalizing frame with
  | nil =>
    obtain rfl := Option.some.inj done
    simp
  | cons handle rest ih =>
    rw [gather] at done
    split at done
    next =>
      rw [List.pairwise_cons] at ordered
      have extended : framePoints id (if (pub.handler handle).pointsClouds.isEmpty then frame else frame ++ [pub.frameLidar handle]) =
          framePoints id frame ++ if handle = id then (pub.handler handle).pointsClouds else [] := by
        split
        next empty => simp [List.isEmpty_iff.mp empty]
        next => rw [framePoints_append, framePoints_frameLidar]
      rw [ih ordered.2 done, extended, List.append_assoc]
      by_cases same : handle = id
      · subst same
        have once : handle ∉ rest := fun again => BitVec.lt_irrefl handle (ordered.1 handle again)
        simp [once]
      · simp [same, Ne.symm same]
    next => cases done

theorem checkSynced_kept {config : PointCloudConfig} {pub after : PubHandler α} {id : BitVec 32}
    {outputs : List (Output α)} (taken : pub.checkSynced config id = some (after, outputs)) :
    after.checking = pub.checking ∧ after.rawPacketQueue = pub.rawPacketQueue ∧ after.received = pub.received ∧
      after.isTimestampSync = pub.isTimestampSync ∧ after.lastPubTime = pub.lastPubTime := by
  revert taken
  fun_cases checkSynced config id pub with
  | case1 =>
    intro taken
    cases taken
  | case2 | case3 | case4 | case5 =>
    intro taken
    obtain ⟨rfl, rfl⟩ := Prod.mk.inj (Option.some.inj taken)
    exact ⟨rfl, rfl, rfl, rfl, rfl⟩

/-- The packet that a call of the SDK brings -/
def packetOf : Event α → Option RawPacket
  | .onLivoxLidarPointCloud handle devType data now => data.data.elim (fun _ => none) (rawPacket handle devType data · now)
  | _ => none

theorem filterMap_snoc (history : List (Entry (PubHandler α) (Event α) (Output α)))
    (entry : Entry (PubHandler α) (Event α) (Output α)) :
    (history ++ [entry]).filterMap (fun entry => packetOf entry.event) =
      history.filterMap (fun entry => packetOf entry.event) ++ (packetOf entry.event).toList := by
  cases known : packetOf entry.event <;> simp [known]

variable [Arithmetic α] {lidarExtrinsics : BitVec 32 → Option (ExtParameter α)} {config : PointCloudConfig}

/-- The extrinsic parameters that the points of a lidar are brought to the vehicle by -/
def extrinsicOf (lidarExtrinsics : BitVec 32 → Option (ExtParameter α)) (id : BitVec 32) : ExtParameterDetailed α :=
  ((lidarExtrinsics id).map LidarPubHandler.detailed).getD LidarPubHandler.construct.extrinsic

/-- The points that the packets of a lidar come to -/
def packetPoints (lidarExtrinsics : BitVec 32 → Option (ExtParameter α)) (id : BitVec 32) (packets : List RawPacket) :
    List (PointXyzlt α) :=
  (packets.filter (·.handle = id)).flatMap (LidarPubHandler.processed (extrinsicOf lidarExtrinsics id))

theorem packetPoints_append (id : BitVec 32) (first rest : List RawPacket) :
    packetPoints lidarExtrinsics id (first ++ rest) =
      packetPoints lidarExtrinsics id first ++ packetPoints lidarExtrinsics id rest := by
  simp [packetPoints]

theorem packetPoints_cons (id : BitVec 32) (packet : RawPacket) (rest : List RawPacket) :
    packetPoints lidarExtrinsics id (packet :: rest) = (if packet.handle = id
      then LidarPubHandler.processed (extrinsicOf lidarExtrinsics id) packet else []) ++
      packetPoints lidarExtrinsics id rest := by
  by_cases same : packet.handle = id <;> simp [packetPoints, same]

/-- The handlers of the map are in its order, and all others are fresh. -/
structure HandlersHeld (lidarExtrinsics : BitVec 32 → Option (ExtParameter α)) (pub : PubHandler α) : Prop where
  ordered : pub.lidars.Pairwise (· < ·)
  fresh : ∀ id, id ∉ pub.lidars → (pub.handler id).pointsClouds = []
  extrinsic : ∀ id, (pub.handler id).isSetExtrinsicParams = false ∧
      (pub.handler id).extrinsic = LidarPubHandler.construct.extrinsic ∨
    (pub.handler id).isSetExtrinsicParams = true ∧ (pub.handler id).extrinsic = extrinsicOf lidarExtrinsics id

def pointsAt (id : BitVec 32) : Output α → List (PointXyzlt α)
  | .publish frame => framePoints id frame
  | .imu .. => []

/-- What of a lidar is underway to its frames -/
def accumulated (lidarExtrinsics : BitVec 32 → Option (ExtParameter α)) (id : BitVec 32) (pub : PubHandler α) :
    List (PointXyzlt α) :=
  (pub.handler id).pointsClouds ++ packetPoints lidarExtrinsics id (pub.rawPacketQueue ++ pub.received.toList)

/-- A step keeps the account of all lidars. -/
structure PointsAccounted (lidarExtrinsics : BitVec 32 → Option (ExtParameter α)) (before : PubHandler α)
    (event : Event α) (outputs : List (Output α)) (after : PubHandler α) : Prop where
  held : HandlersHeld lidarExtrinsics after
  account : ∀ id, accumulated lidarExtrinsics id before ++ packetPoints lidarExtrinsics id (packetOf event).toList =
    outputs.flatMap (pointsAt id) ++ accumulated lidarExtrinsics id after
  formed : ∀ frame, .publish frame ∈ outputs → WellFormed frame

theorem HandlersHeld.configured {pub : PubHandler α} (held : HandlersHeld lidarExtrinsics pub) (id : BitVec 32) :
    (pub.configuredHandler lidarExtrinsics id).pointsClouds = (pub.handler id).pointsClouds ∧
      (pub.configuredHandler lidarExtrinsics id).extrinsic = extrinsicOf lidarExtrinsics id ∧
      ((pub.configuredHandler lidarExtrinsics id).isSetExtrinsicParams = false →
        extrinsicOf lidarExtrinsics id = LidarPubHandler.construct.extrinsic) := by
  rw [configuredHandler]
  split
  next absent =>
    have default : extrinsicOf lidarExtrinsics id = LidarPubHandler.construct.extrinsic := by simp [extrinsicOf, absent]
    rcases held.extrinsic id with ⟨unset, same⟩ | ⟨set, same⟩
    · exact ⟨rfl, same.trans default.symm, fun _ => default⟩
    · exact ⟨rfl, same, fun _ => default⟩
  next param present =>
    rw [LidarPubHandler.setLidarsExtParam]
    rcases held.extrinsic id with ⟨unset, same⟩ | ⟨set, same⟩
    · simp [unset, extrinsicOf, present]
    · simp [set, same]

theorem rawDataProcess_accounted {pub after : PubHandler α} (held : HandlersHeld lidarExtrinsics pub)
    (taken : pub.rawDataProcess lidarExtrinsics = some after) :
    PointsAccounted lidarExtrinsics pub .rawDataProcess [] after := by
  revert taken
  fun_cases rawDataProcess lidarExtrinsics pub with
  | case1 packet rest queued idle id =>
    intro taken
    obtain rfl := Option.some.inj taken
    have handle : packet.handle = id := rfl
    clear_value id
    subst handle
    obtain ⟨points, extrinsic, unset⟩ := held.configured packet.handle
    refine ⟨⟨insertLidar_ordered held.ordered packet.handle, fun other absent => ?_, fun other => ?_⟩, fun other => ?_, by simp⟩
    · obtain ⟨different, missing⟩ := not_or.mp (mem_insertLidar.not.mp absent)
      rw [handler_setHandler, if_neg different]
      exact held.fresh other missing
    · rw [handler_setHandler]
      split
      next same =>
        subst same
        cases set : (pub.configuredHandler lidarExtrinsics packet.handle).isSetExtrinsicParams with
        | false => exact .inl ⟨set, extrinsic.trans (unset set)⟩
        | true => exact .inr ⟨set, extrinsic⟩
      next => exact held.extrinsic other
    · simp only [accumulated, handler_setHandler, queued, List.cons_append, packetPoints_cons]
      split
      next same =>
        subst same
        rw [if_pos rfl, LidarPubHandler.pointCloudProcess, points, extrinsic]
        simp [setHandler, packetOf, packetPoints]
      next different =>
        rw [if_neg (Ne.symm different)]
        simp [setHandler, packetOf, packetPoints]
  | case2 =>
    intro taken
    cases taken

theorem PointsAccounted.kept {pub after : PubHandler α} {event : Event α} (held : HandlersHeld lidarExtrinsics pub)
    (silent : packetOf event = none) (lidars : after.lidars = pub.lidars) (handler : after.handler = pub.handler)
    (queue : after.rawPacketQueue ++ after.received.toList = pub.rawPacketQueue ++ pub.received.toList) :
    PointsAccounted lidarExtrinsics pub event [] after where
  held := ⟨lidars ▸ held.ordered, by rw [lidars, handler]; exact held.fresh, by rw [handler]; exact held.extrinsic⟩
  account id := by simp [accumulated, silent, handler, queue, packetPoints]
  formed := by simp

theorem checkSynced_accounted {pub after : PubHandler α} {id : BitVec 32} {now : Int} {outputs : List (Output α)}
    (held : HandlersHeld lidarExtrinsics pub) (taken : pub.checkSynced config id = some (after, outputs)) :
    PointsAccounted lidarExtrinsics pub (.checkTimer now) outputs after := by
  revert taken
  fun_cases checkSynced config id pub with
  | case1 =>
    intro taken
    cases taken
  | case2 | case3 | case4 =>
    intro taken
    obtain ⟨rfl, rfl⟩ := Prod.mk.inj (Option.some.inj taken)
    exact .kept held rfl rfl rfl rfl
  | case5 handler recentTimeMs divides late spans some =>
    intro taken
    obtain ⟨rfl, rfl⟩ := Prod.mk.inj (Option.some.inj taken)
    refine ⟨⟨held.ordered, fun other absent => ?_, fun other => ?_⟩, fun other => ?_, fun frame published => ?_⟩
    · rw [handler_setHandler]
      split
      next => rfl
      next => exact held.fresh other absent
    · rw [handler_setHandler]
      split
      next same =>
        subst same
        exact held.extrinsic other
      next => exact held.extrinsic other
    · simp only [accumulated, handler_setHandler, List.flatMap_singleton, pointsAt, framePoints_frameLidar]
      by_cases same : other = id
      · subst same
        simp [setHandler, packetOf, packetPoints, LidarPubHandler.getLidarPointClouds]
      · simp [same, Ne.symm same, setHandler, packetOf, packetPoints]
    · obtain rfl := Output.publish.inj (List.mem_singleton.mp published)
      exact {
        based := List.forall_mem_singleton.mpr (frameLidar_based some)
        typed := List.forall_mem_singleton.mpr ⟨rfl, rfl⟩
        apart := List.pairwise_singleton ..
        fits := by simp [kMaxSourceLidar] }

theorem checkUnsynced_accounted {pub after : PubHandler α} {now : Int} {outputs : List (Output α)}
    (held : HandlersHeld lidarExtrinsics pub) (taken : pub.checkUnsynced config now = some (after, outputs)) :
    PointsAccounted lidarExtrinsics pub (.checkTimer now) outputs after := by
  revert taken
  fun_cases checkUnsynced config now pub with
  | case1 | case2 =>
    intro taken
    obtain ⟨rfl, rfl⟩ := Prod.mk.inj (Option.some.inj taken)
    exact .kept held rfl rfl rfl rfl
  | case3 last started due =>
    intro taken
    obtain ⟨frame, gathered, same⟩ := Option.map_eq_some_iff.mp taken
    obtain ⟨rfl, rfl⟩ := Prod.mk.inj same
    have points id := gather_points held.ordered gathered id
    refine ⟨⟨held.ordered, fun _ _ => rfl, held.extrinsic⟩, fun id => ?_, fun other published => ?_⟩
    · have whole : framePoints id frame = (pub.handler id).pointsClouds := by
        rw [points id]
        split
        next => simp [framePoints]
        next absent => simp [framePoints, held.fresh id absent]
      simp [accumulated, pointsAt, whole, packetOf, packetPoints, LidarPubHandler.getLidarPointClouds]
    · obtain rfl := Output.publish.inj (List.mem_singleton.mp published)
      exact gather_wellFormed ⟨by simp, by simp, .nil, Nat.zero_le _⟩ held.ordered (by simp) gathered

theorem step_pointsAccounted {pub after : PubHandler α} {event : Event α} {outputs : List (Output α)}
    (held : HandlersHeld lidarExtrinsics pub) (taken : (pubHandler lidarExtrinsics config).step pub event = some (after, outputs)) :
    PointsAccounted lidarExtrinsics pub event outputs after := by
  cases event with
  | onLivoxLidarPointCloud handle devType data now =>
    simp only [pubHandler, PubHandler.step] at taken
    split at taken
    next => cases taken
    next free =>
      rw [Option.not_isSome_iff_eq_none] at free
      rw [PubHandler.onLivoxLidarPointCloud] at taken
      split at taken
      next imu carried =>
        obtain ⟨rfl, rfl⟩ := Prod.mk.inj (Option.some.inj taken)
        refine ⟨⟨held.ordered, held.fresh, held.extrinsic⟩, fun id => ?_, by simp⟩
        simp [accumulated, packetOf, carried, pointsAt, packetPoints]
      next rawData carried =>
        obtain ⟨packet, made, same⟩ := Option.map_eq_some_iff.mp taken
        obtain ⟨rfl, rfl⟩ := Prod.mk.inj same
        refine ⟨⟨held.ordered, held.fresh, held.extrinsic⟩, fun id => ?_, by simp⟩
        simp [accumulated, packetOf, carried, free, made, packetPoints_append]
  | enqueue =>
    obtain ⟨packet, waits, same⟩ := Option.map_eq_some_iff.mp taken
    obtain ⟨rfl, rfl⟩ := Prod.mk.inj same
    exact .kept held rfl rfl rfl (by simp [waits])
  | rawDataProcess =>
    simp only [pubHandler, PubHandler.step] at taken
    split at taken
    next => cases taken
    next =>
      obtain ⟨processed, done, same⟩ := Option.map_eq_some_iff.mp taken
      obtain ⟨rfl, rfl⟩ := Prod.mk.inj same
      exact rawDataProcess_accounted held done
  | checkTimer now =>
    have done : HandlersHeld lidarExtrinsics { pub with checking := none } := ⟨held.ordered, held.fresh, held.extrinsic⟩
    simp only [pubHandler, PubHandler.step, PubHandler.checkTimer] at taken
    split at taken
    next => cases taken
    next =>
      split at taken
      next =>
        obtain ⟨after, account, formed⟩ := checkSynced_accounted done taken
        exact ⟨after, account, formed⟩
      next =>
        obtain ⟨after, account, formed⟩ := checkUnsynced_accounted done taken
        exact ⟨after, account, formed⟩
  | requestExit =>
    obtain ⟨rfl, rfl⟩ := Prod.mk.inj (Option.some.inj taken)
    exact .kept held rfl rfl rfl rfl

variable {history : List (Entry (PubHandler α) (Event α) (Output α))} {pub : PubHandler α}

theorem initial_handlers : HandlersHeld lidarExtrinsics (pubHandler lidarExtrinsics config).initial :=
  ⟨.nil, fun _ _ => rfl, fun _ => .inl ⟨rfl, rfl⟩⟩

theorem run_handlers (run : (pubHandler lidarExtrinsics config).Run history pub) : HandlersHeld lidarExtrinsics pub :=
  run.invariant (HandlersHeld lidarExtrinsics) initial_handlers fun taken held => (step_pointsAccounted held taken).held

theorem run_points (run : (pubHandler lidarExtrinsics config).Run history pub) (id : BitVec 32) :
    packetPoints lidarExtrinsics id (history.filterMap fun entry => packetOf entry.event) =
      (history.flatMap Entry.outputs).flatMap (pointsAt id) ++ accumulated lidarExtrinsics id pub := by
  induction run with
  | refl => rfl
  | @snoc state after history event outputs earlier taken ih =>
    have account := (step_pointsAccounted (run_handlers earlier) taken).account id
    rw [filterMap_snoc, packetPoints_append, ih, List.append_assoc, account]
    simp

theorem run_formed (run : (pubHandler lidarExtrinsics config).Run history pub) {frame : PointFrame α}
    (published : .publish frame ∈ history.flatMap Entry.outputs) : WellFormed frame := by
  obtain ⟨entry, member, inside⟩ := List.mem_flatMap.mp published
  obtain ⟨_, _, _, reached, taken, _⟩ := run.mem member
  exact (step_pointsAccounted (run_handlers reached) taken).formed frame inside

/-- What a lidar sends is published in its order, each point once, or is still on the
way; and every frame that is published is as it is meant to be. -/
theorem points_published (run : (pubHandler lidarExtrinsics config).Run history pub) :
    (∀ id, packetPoints lidarExtrinsics id (history.filterMap fun entry => packetOf entry.event) =
      (history.flatMap Entry.outputs).flatMap (pointsAt id) ++ accumulated lidarExtrinsics id pub) ∧
      ∀ frame, .publish frame ∈ history.flatMap Entry.outputs → WellFormed frame :=
  ⟨run_points run, fun _ => run_formed run⟩

def tenHertz : PointCloudConfig := ⟨100000000, 99000000, 100⟩

def noExtrinsics : BitVec 32 → Option (ExtParameter ℝ) := fun _ => none

/-- One point from one lidar, with a clock -/
def onePacket (timeType : TimestampType) (timestamp : BitVec 64) : EthernetPacket ℝ :=
  ⟨timeType, 0, 1, timestamp, .inr (.cartesianHigh [⟨1000, 0, 0, 0, 0⟩])⟩

/-- Its way to the timer -/
def onePacketEvents (timeType : TimestampType) (timestamp : BitVec 64) (now : Int) : List (Event ℝ) :=
  [.onLivoxLidarPointCloud 7 .mid360 (onePacket timeType timestamp) now, .enqueue, .rawDataProcess, .checkTimer now]

theorem points_published_two : ∃ history pub, (pubHandler noExtrinsics tenHertz).Run history pub ∧
    (((history.flatMap Entry.outputs).flatMap (pointsAt 7)).map (·.offsetTime)) = [1, 100000000] ∧
    packetPoints noExtrinsics 7 (history.filterMap fun entry => packetOf entry.event) =
      (history.flatMap Entry.outputs).flatMap (pointsAt 7) ++ accumulated noExtrinsics 7 pub := by
  have recorded : (pubHandler noExtrinsics tenHertz).record (pubHandler noExtrinsics tenHertz).initial
    (onePacketEvents .gps 1 0 ++ onePacketEvents .gps 100000000 0) = some (_, _) := rfl
  have run := Machine.path_of_record recorded
  exact ⟨_, _, run, rfl, (points_published run).1 7⟩

end FlightStack.Proofs
