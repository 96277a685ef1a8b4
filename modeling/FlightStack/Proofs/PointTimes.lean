import FlightStack.Proofs.MessageTimes
import FlightStack.Proofs.ScanTimes

/-! From the lidar to the map: the points of a measure are those of the packets that the
driver was given, each at the time it was measured at. -/

namespace FlightStack.Proofs
open Driver Lddc LaserMapping Preprocess
variable {α φ : Type} [Arithmetic α]

/-- A scan without features has no points but those of its message. -/
theorem aviaHandler_mem {pre : Preprocess α} (plain : pre.featureEnabled = false) {msg : Lddc.CustomMsg α}
    {point : PointXYZINormal α} (inside : point ∈ pre.aviaHandler msg) : ∃ sent ∈ msg.points, point = fullPoint sent := by
  revert point
  rw [aviaHandler, plain, if_neg Bool.false_ne_true]
  generalize List.range' 1 (msg.pointNum.toNat - 1) = rounds
  induction rounds using List.reverseRecOn with
  | nil => simp
  | append_singleton rounds i ih =>
    intro point inside
    rw [List.foldl_append, List.foldl_cons, List.foldl_nil] at inside
    revert inside
    fun_cases pre.aviaRound msg.points (rounds.foldl (pre.aviaRound msg.points) { plFull := fun _ => unset }) i with
    | case1 | case3 | case4 => exact ih
    | case2 sent present valid kept full =>
      intro inside
      dsimp only at inside
      split at inside
      next =>
        rcases List.mem_append.mp inside with earlier | last
        · exact ih earlier
        · exact ⟨sent, List.mem_of_getElem? present, List.mem_singleton.mp last⟩
      next => exact ih inside

/-- The time of a point that is less than 2 ^ 32 nanoseconds behind the stamp -/
theorem time_restored (stamp offsetTime : BitVec 64) (behind : stamp.toNat ≤ offsetTime.toNat)
    (near : offsetTime.toNat < stamp.toNat + 2 ^ 32) :
    (getTimeSec stamp : α) + (((offsetTime - stamp).setWidth 32).toNat : α) / 10 ^ 6 / 1000 = getTimeSec offsetTime := by
  have whole : ((offsetTime - stamp).setWidth 32).toNat = offsetTime.toNat - stamp.toNat := by
    rw [BitVec.toNat_setWidth, BitVec.toNat_sub_of_le (BitVec.le_def.mpr behind), Nat.mod_eq_of_lt (by omega)]
  rw [getTimeSec, getTimeSec, whole, Nat.cast_sub behind]
  ring

variable {entries : List (LidarEntry α)} {publishFreq : α} {transferFormat : Int}
  {history : List (Entry (Driver α) (Driver.Event α) (Driver.Output α))} {final : Driver α}

/-- What the mapping node hears when the driver is the only source of scans -/
inductive Heard (history : List (Entry (Driver α) (Driver.Event α) (Driver.Output α))) : LaserMapping.Event α → Prop where
  | livoxPclCbk {msg : Lddc.CustomMsg α} (frameId : String) (lidar : ConfiguredLidar α) (index : Fin 32)
      (packet : StoragePacket α) (published : .thread (.published index packet) ∈ history.flatMap Entry.outputs)
      (made : publishCustomPointcloud frameId lidar packet = some msg) : Heard history (.livoxPclCbk msg)
  | imuCbk (msg : Imu α) : Heard history (.imuCbk msg)
  | timerCallback : Heard history .timerCallback

/-- A point of a scan that begins at `stamp`, with the packet and the point it comes from -/
structure Measured (entries : List (LidarEntry α)) (stamp : BitVec 64) (point : PointXYZINormal α) (pkt : RawPacket)
    (source : PointXyzlt α) : Prop where
  processed : source ∈ LidarPubHandler.processed (extrinsicOf (lidarExtrinsics entries) pkt.handle) pkt
  x : point.x = source.x
  y : point.y = source.y
  z : point.z = source.z
  intensity : point.intensity = source.intensity
  time : stamp.toNat ≤ source.offsetTime.toNat → source.offsetTime.toNat < stamp.toNat + 2 ^ 32 →
    (getTimeSec stamp : α) + point.curvature / 1000 = getTimeSec source.offsetTime

theorem message_measured (driving : (driver entries publishFreq transferFormat).Run history final) {frameId : String}
    {lidar : ConfiguredLidar α} {index : Fin 32} {packet : StoragePacket α} {msg : Lddc.CustomMsg α}
    (published : .thread (.published index packet) ∈ history.flatMap Entry.outputs)
    (made : publishCustomPointcloud frameId lidar packet = some msg) {sent : Lddc.CustomPoint α} (inside : sent ∈ msg.points) :
    ∃ pkt ∈ (history.flatMap pubTold).filterMap packetOf, ∃ source, Measured entries msg.stamp (fullPoint sent) pkt source := by
  obtain ⟨frame, framed, ⟨baseTime, lidarPoint⟩, member, same, some⟩ := frame_of_published driving published
  obtain ⟨handling, handled, told, said⟩ := pub_part.run driving
  rw [← said] at framed
  rw [publishCustomPointcloud, if_neg some] at made
  obtain rfl := Option.some.inj made
  have stamp : (fillPointsToCustomMsg (initCustomMsg frameId lidar packet) packet).stamp = packet.baseTime := if_neg some
  obtain ⟨source, taken, rfl⟩ := List.mem_map.mp (show sent ∈ (packet.points.take packet.pointsNum.toNat).map
    (customPoint packet.baseTime) from inside)
  have gathered : source ∈ lidarPoint.points := by
    rw [same] at taken
    exact List.mem_of_mem_take (List.mem_of_mem_take taken)
  obtain ⟨pkt, queued, processed⟩ := processed_of_frame handled framed member gathered
  obtain ⟨raw, intensity⟩ := processed_intensity processed
  have packets : handling.filterMap (fun entry => packetOf entry.event) = (history.flatMap pubTold).filterMap packetOf := by
    rw [← told, List.filterMap_map]
    rfl
  refine ⟨pkt, packets ▸ queued, source, processed, rfl, rfl, rfl, ?_, fun behind near => ?_⟩
  · rw [intensity, fullPoint, customPoint, intensity, reflectivityOf_raw]
  · rw [stamp] at behind near ⊢
    exact time_restored _ _ behind near

variable {params : Parameters α φ} {pImu : ImuProcess α} {kf : φ} {node : LaserMapping α φ}
  {received early rest : List (Entry (LaserMapping α φ) (LaserMapping.Event α) (LaserMapping.Output α))}

theorem lost_of_append (kept : lost params (early ++ rest) = 0) : lost params early = 0 := by
  rw [lost, List.map_append, List.sum_append] at kept
  exact (Nat.add_eq_zero_iff.mp kept).1

/-- Where no scan is lost, a measure holds points of one message, from the time that the
first point of its packet was measured at on. Each of them is a point that a packet of
the SDK came to, and the time of it is the one that the lidar gave, as far as 32 bits
reach. -/
theorem points_in_time (driving : (driver entries publishFreq transferFormat).Run history final)
    (plain : params.preprocess.featureEnabled = false) (mapping : (laserMapping params pImu kf).Run received node)
    (heard : ∀ entry ∈ received, Heard history entry.event) (kept : lost params received = 0) :
    ∀ entry ∈ received, ∀ meas, .measured meas ∈ entry.outputs →
      ∃ stamp, meas.lidarBegTime = getTimeSec stamp ∧ ∀ point ∈ meas.lidar,
        ∃ pkt ∈ (history.flatMap pubTold).filterMap packetOf, ∃ source, Measured entries stamp point pkt source := by
  intro entry member meas told
  obtain ⟨past, future, rfl⟩ := List.append_of_mem member
  obtain ⟨early, taking, later, split, _, takenUp⟩ := takenUp_of_measured mapping told
  have whole : past ++ entry :: future = early ++ (taking :: later ++ future) := by
    rw [List.append_cons, split, List.append_assoc]
  rw [whole] at kept heard
  obtain ⟨_, _, _, time, scan⟩ := takenUp
  -- nothing was lost before the scan was taken up, so its time came with it
  rw [lost_of_append kept, Nat.add_zero] at scan
  obtain ⟨arrival, there, begins⟩ := Option.map_eq_some_iff.mp time
  rw [there] at scan
  obtain ⟨bringing, before, arrives⟩ := List.mem_filterMap.mp (List.mem_of_getElem? there)
  have lidar : arrival.2 = meas.lidar := Option.some.inj scan
  cases event : bringing.event with
  | standardPclCbk =>
    -- the driver sends no such message
    have source := heard bringing (List.mem_append_left _ before)
    rw [event] at source
    cases source
  | imuCbk | timerCallback =>
    rw [event] at arrives
    cases arrives
  | livoxPclCbk msg =>
    have source := heard bringing (List.mem_append_left _ before)
    rw [event] at source arrives
    obtain rfl := Option.some.inj arrives
    refine ⟨msg.stamp, begins.symm, fun point inside => ?_⟩
    rw [← lidar] at inside
    obtain ⟨sent, among, rfl⟩ := aviaHandler_mem plain inside
    cases source with
    | livoxPclCbk frameId device index packet published made => exact message_measured driving published made among

/-- A packet like `onePacket`, with its point two metres ahead -/
def farPacket : EthernetPacket ℝ := { onePacket .gps 50000000 with data := .inr (.cartesianHigh [⟨2000, 0, 0, 0, 0⟩]) }

noncomputable def farPoint : PointXyzlt ℝ :=
  LidarPubHandler.cartesianPoint 1000 (LidarPubHandler.detailed ⟨0, 0, 0, 0, 0, 0⟩)
    ⟨7, false, 4, 1, 50000000, 0, .cartesianHigh [⟨2000, 0, 0, 0, 0⟩]⟩ ⟨2000, 0, 0, 0, 0⟩ 0

/-- Three points on their way to the timer, the second one further ahead -/
def threePointEvents : List (PubHandler.Event ℝ) :=
  onePacketEvents .gps 1 0 ++ [.onLivoxLidarPointCloud 7 .mid360 farPacket 0, .enqueue, .rawDataProcess, .checkTimer 0] ++
    onePacketEvents .gps 100000000 0

theorem threePoint_run : ∃ history final stored, (driver oneLidar 10 1).Run history final ∧
    .thread (.published 0 stored) ∈ history.flatMap Entry.outputs ∧ stored.baseTime = 1 ∧ stored.pointsNum = 3 ∧
      stored.points = [aheadPoint 1, farPoint, aheadPoint 100000000] := by
  have recorded : oneLidarDriver.record oneLidarDriver.initial ([.lds (.lidarInfoChange 7),
    .lds (.reply 7 (.setting .scanPattern) .success true)] ++ threePointEvents.map .pub ++
      .storagePointData :: (List.replicate 7 .store ++ List.replicate 42 .distribute)) = some (_, _) := rfl
  have run := Machine.path_of_record recorded
  rw [oneLidarDriver_eq]
  exact ⟨_, _, _, run, List.mem_of_getElem? (i := 7) rfl, rfl, rfl, rfl⟩

theorem aheadPoint_x (time : BitVec 64) : (aheadPoint time).x = 1 := by
  have level : (cos 0 : ℝ) = 1 := Real.cos_zero
  simp [aheadPoint, LidarPubHandler.cartesianPoint, LidarPubHandler.detailed, LidarPubHandler.along, level]

theorem farPoint_x : farPoint.x = 2 := by
  have level : (cos 0 : ℝ) = 1 := Real.cos_zero
  norm_num [farPoint, LidarPubHandler.cartesianPoint, LidarPubHandler.detailed, LidarPubHandler.along, level]

/-- A node that leaves no valid point out -/
noncomputable def keenNode : Parameters ℝ Unit := { stillNode with preprocess := ⟨4, 0, 1, false, id⟩ }

theorem keen_outsideBlind {point : Point ℝ} (ahead : 0 < point.x) : keenNode.preprocess.outsideBlind point = true := by
  have blind : keenNode.preprocess.blind = 0 := rfl
  simp only [outsideBlind, blind, decide_eq_true_eq, mul_zero]
  have beside := mul_self_nonneg point.y
  have above := mul_self_nonneg point.z
  have along := mul_pos ahead ahead
  linarith

theorem keen_valid {point : PointXyzlt ℝ} (tag : point.tag = 0) (line : point.line = 0) (baseTime : BitVec 64) :
    keenNode.preprocess.isValid (customPoint baseTime point) = true := by
  simp [isValid, customPoint, tag, line, keenNode]

/-- The first point is passed over, the other two are ahead and apart enough. -/
theorem keen_scan {msg : Lddc.CustomMsg ℝ} {first : Lddc.CustomPoint ℝ} {baseTime time : BitVec 64} (num : msg.pointNum = 3)
    (points : msg.points = [first, customPoint baseTime farPoint, customPoint baseTime (aheadPoint time)]) :
    keenNode.preprocess.aviaHandler msg =
      [fullPoint (customPoint baseTime farPoint), fullPoint (customPoint baseTime (aheadPoint time))] := by
  have far : (fullPoint (customPoint baseTime farPoint)).x = 2 := farPoint_x
  have ahead : (fullPoint (customPoint baseTime (aheadPoint time))).x = 1 := aheadPoint_x time
  have every : keenNode.preprocess.pointFilterNum = 1 := rfl
  have outside : keenNode.preprocess.outsideBlind (fullPoint (customPoint baseTime farPoint)).toPoint = true :=
    keen_outsideBlind (far ▸ zero_lt_two)
  have outsideToo : keenNode.preprocess.outsideBlind (fullPoint (customPoint baseTime (aheadPoint time))).toPoint = true :=
    keen_outsideBlind (ahead ▸ zero_lt_one)
  have distinct : apart (fullPoint (customPoint baseTime farPoint)).toPoint (unset : PointXYZINormal ℝ).toPoint = true := by
    have across : (1e-7 : ℝ) < 2 := by norm_num
    simp [apart, far, unset, across]
  have distinctToo : apart (fullPoint (customPoint baseTime (aheadPoint time))).toPoint
      (fullPoint (customPoint baseTime farPoint)).toPoint = true := by
    have across : (1e-7 : ℝ) < |1 - 2| := by norm_num
    simp only [apart, far, ahead, across, decide_true, Bool.true_or]
  have valid : keenNode.preprocess.isValid (customPoint baseTime farPoint) = true := keen_valid rfl rfl _
  have validToo : keenNode.preprocess.isValid (customPoint baseTime (aheadPoint time)) = true := keen_valid rfl rfl _
  have plain : keenNode.preprocess.featureEnabled = false := rfl
  simp [aviaHandler, plain, num, aviaRound, points, valid, validToo, every, outside, outsideToo, distinct, distinctToo,
    List.range']

/-- A message, a sample that is late enough and a round of the timer -/
theorem message_run {msg : Lddc.CustomMsg ℝ} (many : ¬ (keenNode.preprocess.aviaHandler msg).length ≤ 1)
    (long : ¬ lastOffset (keenNode.preprocess.aviaHandler msg) < 0)
    (early : (getTimeSec msg.stamp : ℝ) + lastOffset (keenNode.preprocess.aviaHandler msg) ≤ 10) :
    ∃ received node entry meas, (laserMapping keenNode stillProcess ()).Run received node ∧
      received.map Entry.event = [.livoxPclCbk msg, .imuCbk ⟨10, 0, 0⟩, .timerCallback] ∧ lost keenNode received = 0 ∧
      entry ∈ received ∧ .measured meas ∈ entry.outputs ∧ meas.lidar = keenNode.preprocess.aviaHandler msg := by
  have recorded : (laserMapping keenNode stillProcess ()).record (laserMapping keenNode stillProcess ()).initial
    [.livoxPclCbk msg, .imuCbk ⟨10, 0, 0⟩, .timerCallback] = some ([_, _, _], _) := rfl
  have unsynced : keenNode.timeSyncEn = false ∧ keenNode.timeDiffLidarToImu = 0 := ⟨rfl, rfl⟩
  have covered := not_lt.mpr early
  refine ⟨_, _, _, ⟨getTimeSec msg.stamp, getTimeSec msg.stamp + lastOffset (keenNode.preprocess.aviaHandler msg),
    keenNode.preprocess.aviaHandler msg, []⟩, Machine.path_of_record recorded, rfl, ?_,
    List.mem_cons_of_mem _ (List.mem_cons_of_mem _ List.mem_cons_self), ?_, rfl⟩
  · simp [lost, lostIn, arrivalOf, laserMapping, LaserMapping.livoxPclCbk, loopBackLidar, pushLidar, selfSync, unsynced]
  · simp [laserMapping, LaserMapping.timerCallback, syncPackages, LaserMapping.livoxPclCbk, LaserMapping.imuCbk, loopBackLidar,
      pushLidar, selfSync, imuStamp, unsynced, takeUp, many, long, covered, popImu]

theorem keen_published {packet : StoragePacket ℝ} {first : PointXyzlt ℝ} {time : BitVec 64} (num : packet.pointsNum = 3)
    (points : packet.points = [first, farPoint, aheadPoint time]) (frameId : String) (lidar : ConfiguredLidar ℝ) :
    ∃ msg, publishCustomPointcloud frameId lidar packet = some msg ∧ msg.stamp = packet.baseTime ∧
      keenNode.preprocess.aviaHandler msg =
        [fullPoint (customPoint packet.baseTime farPoint), fullPoint (customPoint packet.baseTime (aheadPoint time))] := by
  have some : ¬packet.points.isEmpty := by simp [points]
  have filled : (fillPointsToCustomMsg (initCustomMsg frameId lidar packet) packet).points =
      [customPoint packet.baseTime first, customPoint packet.baseTime farPoint,
        customPoint packet.baseTime (aheadPoint time)] := by
    simp [fillPointsToCustomMsg, initCustomMsg, num, points]
  exact ⟨_, if_neg some, if_neg some, keen_scan num filled⟩

theorem points_in_time_two : ∃ history final received node entry meas first second,
    (driver oneLidar 10 1).Run history final ∧ (laserMapping keenNode stillProcess ()).Run received node ∧
    (∀ entry ∈ received, Heard history entry.event) ∧ lost keenNode received = 0 ∧ entry ∈ received ∧
    .measured meas ∈ entry.outputs ∧ meas.lidar = [first, second] ∧ first.x = 2 ∧ second.x = 1 ∧
    ∃ stamp, meas.lidarBegTime = getTimeSec stamp ∧ ∀ point ∈ meas.lidar,
      ∃ pkt ∈ (history.flatMap pubTold).filterMap packetOf, ∃ source, Measured oneLidar stamp point pkt source := by
  obtain ⟨history, final, stored, driving, published, base, num, points⟩ := threePoint_run
  obtain ⟨msg, made, stamp, scan⟩ := keen_published num points "livox_frame" (final.lds.lidars 0)
  rw [base] at stamp scan
  have last : lastOffset (keenNode.preprocess.aviaHandler msg) = 99999999 / 10 ^ 6 / 1000 := by
    have behind : (((aheadPoint 100000000).offsetTime - 1).setWidth 32).toNat = 99999999 := rfl
    rw [scan]
    change (((((aheadPoint 100000000).offsetTime - 1).setWidth 32).toNat : ℝ) / 10 ^ 6) / 1000 = _
    rw [behind]
    norm_num
  have early : (getTimeSec msg.stamp : ℝ) + lastOffset (keenNode.preprocess.aviaHandler msg) ≤ 10 := by
    have nanosecond : (1 : BitVec 64).toNat = 1 := rfl
    rw [last, stamp, getTimeSec, nanosecond]
    norm_num
  obtain ⟨received, node, entry, meas, mapping, events, kept, member, measured, same⟩ :=
    message_run (by simp [scan]) (by rw [last]; norm_num) early
  have heard : ∀ entry ∈ received, Heard history entry.event := by
    intro entry member
    have event : entry.event ∈ received.map Entry.event := List.mem_map_of_mem member
    rw [events] at event
    obtain event | event | event : entry.event = _ ∨ entry.event = _ ∨ entry.event = _ := by simpa using event
    · exact event ▸ .livoxPclCbk "livox_frame" _ 0 _ published made
    · exact event ▸ .imuCbk _
    · exact event ▸ .timerCallback
  refine ⟨history, final, received, node, entry, meas, _, _, driving, mapping, heard, kept, member, measured, same.trans scan,
    farPoint_x, aheadPoint_x 100000000, ?_⟩
  exact points_in_time driving rfl mapping heard kept entry member meas measured

end FlightStack.Proofs
