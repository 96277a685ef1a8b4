import FlightStack.Proofs.ScanEnds

/-! The samples of the IMU are divided among the measures by their times, each to one
measure and in order. -/

namespace FlightStack.Proofs
open LaserMapping
variable {α φ : Type} [Arithmetic α] {params : Parameters α φ}

theorem getRosTime_eq (timestamp : α) : getRosTime timestamp = ⌊timestamp * 10 ^ 9⌋ / 10 ^ 9 := by
  have split : timestamp * 10 ^ 9 = (timestamp - ⌊timestamp⌋) * 10 ^ 9 + (⌊timestamp⌋ * 10 ^ 9 : ℤ) := by
    push_cast
    ring
  rw [getRosTime, split, Int.floor_add_intCast]
  push_cast
  ring

theorem getRosTime_mono : Monotone (getRosTime : α → α) := by
  intro first second order
  rw [getRosTime_eq, getRosTime_eq]
  gcongr

theorem getRosTime_nonneg {timestamp : α} (nonneg : 0 ≤ timestamp) : 0 ≤ getRosTime timestamp :=
  getRosTime_zero (α := α) ▸ getRosTime_mono nonneg

theorem popImu_append (lidarEndTime imuTime : α) (samples : List (Imu α)) :
    (popImu lidarEndTime imuTime samples).1 ++ (popImu lidarEndTime imuTime samples).2 = samples := by
  fun_induction popImu lidarEndTime imuTime samples with
  | case1 | case2 | case4 => rfl
  | case3 _ imu rest _ _ later ih => exact congrArg (imu :: ·) ih

theorem popImu_until {lidarEndTime imuTime : α} {samples : List (Imu α)} :
    ∀ imu ∈ (popImu lidarEndTime imuTime samples).1, imu.stamp ≤ lidarEndTime := by
  fun_induction popImu lidarEndTime imuTime samples with
  | case1 | case2 | case4 => simp
  | case3 _ imu rest _ inside later ih => exact List.forall_mem_cons.mpr ⟨not_lt.mp inside, ih⟩

theorem popImu_beyond {lidarEndTime imuTime : α} {samples : List (Imu α)}
    (sorted : samples.Pairwise fun first second => first.stamp ≤ second.stamp)
    (from_ : ∀ imu ∈ samples, imuTime ≤ imu.stamp) :
    ∀ imu ∈ (popImu lidarEndTime imuTime samples).2, lidarEndTime ≤ imu.stamp := by
  fun_induction popImu lidarEndTime imuTime samples with
  | case1 => simp
  | case2 _ imu rest _ beyond =>
    rw [List.pairwise_cons] at sorted
    exact List.forall_mem_cons.mpr ⟨beyond.le, fun other member => beyond.le.trans (sorted.1 other member)⟩
  | case3 _ imu rest _ _ later ih =>
    rw [List.pairwise_cons] at sorted
    exact ih sorted.2 sorted.1
  | case4 _ imu rest reached => exact fun other member => (not_lt.mp reached).trans (from_ other member)

/-- How a measure divides the samples that wait -/
structure Divided (node next : LaserMapping α φ) : Prop where
  split : next.measures.imu ++ next.imuBuffer = node.imuBuffer
  until_ : ∀ imu ∈ next.measures.imu, imu.stamp ≤ next.measures.lidarEndTime
  beyond : node.imuBuffer.Pairwise (fun first second => first.stamp ≤ second.stamp) →
    ∀ imu ∈ next.imuBuffer, next.measures.lidarEndTime ≤ imu.stamp
  covered : next.measures.lidarEndTime ≤ node.lastTimestampImu

theorem withMeasure_divided {history : List (Entry (LaserMapping α φ) (Event α) (Output α))} {node : LaserMapping α φ}
    (held : EndsHeld history node) (scan : List (PointXYZINormal α)) (scans : List (List (PointXYZINormal α)))
    (begTime : α) (times : List α) {imu : Imu α} {samples : List (Imu α)} (buffered : node.imuBuffer = imu :: samples)
    (covered : (started node scan begTime).lidarEndTime ≤ node.lastTimestampImu) :
    Divided node (withMeasure (started node scan begTime) scans times imu samples) := by
  have ends := ((started_ends held scan begTime).ends (started_lidarPushed ..)).2
  refine ⟨?_, ?_, fun sorted => ?_, ends ▸ covered⟩
  · rw [buffered]
    exact popImu_append ..
  · exact ends ▸ popImu_until
  · simp only [buffered, List.pairwise_cons] at sorted
    exact ends ▸ popImu_beyond (List.pairwise_cons.mpr sorted) (List.forall_mem_cons.mpr ⟨le_rfl, sorted.1⟩)

/-- The sample that a step brings, with the stamp it is given -/
def imuReceived (params : Parameters α φ) (entry : Entry (LaserMapping α φ) (Event α) (Output α)) : List (Imu α) :=
  match entry.event with
  | .imuCbk msg => [{ msg with stamp := imuStamp params entry.before msg.stamp }]
  | _ => []

/-- No sample of the IMU is given an older stamp than the one before it. -/
def Orderly (params : Parameters α φ) (history : List (Entry (LaserMapping α φ) (Event α) (Output α))) : Prop :=
  ∀ entry ∈ history, ∀ imu ∈ imuReceived params entry, entry.before.lastTimestampImu ≤ imu.stamp

/-- The stamp of a message of the IMU as it comes in -/
def clockOf : Event α → Option α
  | .imuCbk msg => some msg.stamp
  | _ => none

/-- The clock of the IMU does not go back, and is not behind the configured difference. -/
structure Clocked (params : Parameters α φ) (history : List (Entry (LaserMapping α φ) (Event α) (Output α))) : Prop where
  forward : (history.filterMap fun entry => clockOf entry.event).Pairwise (· ≤ ·)
  late : ∀ stamp ∈ history.filterMap fun entry => clockOf entry.event, params.timeDiffLidarToImu ≤ stamp

/-- What a step does to the samples that wait. -/
inductive ImuMoved (params : Parameters α φ) (entry : Entry (LaserMapping α φ) (Event α) (Output α)) : Prop where
  | kept (none : imuReceived params entry = []) (silent : entry.outputs.filterMap measureOf = [])
      (buffer : entry.after.imuBuffer = entry.before.imuBuffer)
      (last : entry.after.lastTimestampImu = entry.before.lastTimestampImu)
  | came (imu : Imu α) (got : imuReceived params entry = [imu]) (silent : entry.outputs.filterMap measureOf = [])
      (buffer : entry.after.imuBuffer =
        (if imu.stamp < entry.before.lastTimestampImu then [] else entry.before.imuBuffer) ++ [imu])
      (last : entry.after.lastTimestampImu = imu.stamp)
  | measured (meas : MeasureGroup α) (none : imuReceived params entry = [])
      (told : entry.outputs.filterMap measureOf = [meas])
      (split : meas.imu ++ entry.after.imuBuffer = entry.before.imuBuffer)
      (until_ : ∀ imu ∈ meas.imu, imu.stamp ≤ meas.lidarEndTime)
      (beyond : entry.before.imuBuffer.Pairwise (fun first second => first.stamp ≤ second.stamp) →
        ∀ imu ∈ entry.after.imuBuffer, meas.lidarEndTime ≤ imu.stamp)
      (covered : meas.lidarEndTime ≤ entry.before.lastTimestampImu)
      (last : entry.after.lastTimestampImu = entry.before.lastTimestampImu)

variable {pImu : ImuProcess α} {kf : φ} {history : List (Entry (LaserMapping α φ) (Event α) (Output α))}
  {node : LaserMapping α φ}

theorem imuReceived_arrival {entry : Entry (LaserMapping α φ) (Event α) (Output α)} {stamp : α}
    {scan : List (PointXYZINormal α)} (arrives : arrivalOf params entry.event = some (stamp, scan)) :
    imuReceived params entry = [] := by
  obtain ⟨before, event, outputs, after⟩ := entry
  cases event with
  | standardPclCbk | livoxPclCbk | timerCallback => rfl
  | imuCbk => cases arrives

theorem imuMoved_of_turned {node after : LaserMapping α φ} {event : Event α} {outputs : List (Output α)}
    (held : EndsHeld history node) (turned : Turned params node event after outputs) :
    ImuMoved params ⟨node, event, outputs, after⟩ := by
  have none {stamp : α} {scan : List (PointXYZINormal α)} (arrives : arrivalOf params event = some (stamp, scan)) :
      imuReceived params ⟨node, event, outputs, after⟩ = [] := imuReceived_arrival arrives
  cases turned with
  | scan _ _ arrives => exact .kept (none arrives) rfl rfl rfl
  | imu msg => exact .came _ rfl rfl rfl rfl
  | idle => exact .kept rfl rfl rfl rfl
  | @waits scan _ begTime => exact .kept rfl rfl (started_imuBuffer node scan begTime) (started_lastTimestampImu node scan begTime)
  | @measured scan scansLeft begTime timesLeft imu samples lidar time buffered covered =>
    obtain ⟨split, until_, beyond, covers⟩ := withMeasure_divided held scan scansLeft begTime timesLeft buffered covered
    refine .measured _ rfl (measured_alone _ _) ?_ until_ ?_ covers ?_
    · rw [useMeasures_imuBuffer]
      exact split
    · rw [useMeasures_imuBuffer]
      exact beyond
    · rw [useMeasures_lastTimestampImu]
      exact started_lastTimestampImu node scan begTime

/-- The account of the samples. Without a stamp that goes back none is lost, and what
comes in a later measure or waits is not older than the end of an earlier measure. -/
structure ImuAccount (params : Parameters α φ) (history : List (Entry (LaserMapping α φ) (Event α) (Output α)))
    (node : LaserMapping α φ) : Prop where
  sorted : node.imuBuffer.Pairwise fun first second => first.stamp ≤ second.stamp
  recent : ∀ imu ∈ node.imuBuffer, imu.stamp ≤ node.lastTimestampImu
  once : ((measuresIn history).flatMap (·.imu) ++ node.imuBuffer).Sublist (history.flatMap (imuReceived params))
  whole : Orderly params history →
    (measuresIn history).flatMap (·.imu) ++ node.imuBuffer = history.flatMap (imuReceived params)
  ended : Orderly params history → ∀ meas ∈ measuresIn history, meas.lidarEndTime ≤ node.lastTimestampImu ∧
    ∀ imu ∈ node.imuBuffer, meas.lidarEndTime ≤ imu.stamp
  apart : Orderly params history →
    (measuresIn history).Pairwise fun first second => ∀ imu ∈ second.imu, first.lidarEndTime ≤ imu.stamp

theorem imuAccount_snoc {entry : Entry (LaserMapping α φ) (Event α) (Output α)}
    (account : ImuAccount params history entry.before) (moved : ImuMoved params entry) :
    ImuAccount params (history ++ [entry]) entry.after := by
  obtain ⟨sorted, recent, once, whole, ended, apart⟩ := account
  have before (orderly : Orderly params (history ++ [entry])) : Orderly params history :=
    fun other member => orderly other (List.mem_append_left _ member)
  have measures := measuresIn_snoc history entry
  have samples : (history ++ [entry]).flatMap (imuReceived params) = history.flatMap (imuReceived params) ++ imuReceived params entry := by
    simp
  cases moved with
  | kept none silent buffer last =>
    rw [silent, List.append_nil] at measures
    rw [none, List.append_nil] at samples
    refine ⟨?_, ?_, ?_, ?_, ?_, ?_⟩
    · rwa [buffer]
    · rwa [buffer, last]
    · rwa [measures, samples, buffer]
    · rw [measures, samples, buffer]
      exact fun orderly => whole (before orderly)
    · rw [measures, buffer, last]
      exact fun orderly => ended (before orderly)
    · rw [measures]
      exact fun orderly => apart (before orderly)
  | came imu got silent buffer last =>
    rw [silent, List.append_nil] at measures
    rw [got] at samples
    have newest (orderly : Orderly params (history ++ [entry])) : entry.before.lastTimestampImu ≤ imu.stamp :=
      orderly entry List.mem_concat_self imu (got ▸ List.mem_singleton_self imu)
    refine ⟨?_, ?_, ?_, fun orderly => ?_, fun orderly meas member => ?_, ?_⟩
    · rw [buffer]
      split
      next => exact List.pairwise_singleton ..
      next later =>
        refine List.pairwise_append.mpr ⟨sorted, List.pairwise_singleton .., fun other member last same => ?_⟩
        rw [List.mem_singleton.mp same]
        exact (recent other member).trans (not_lt.mp later)
    · rw [buffer, last]
      split
      next => simp
      next later =>
        refine List.forall_mem_append.mpr ⟨fun other member => ?_, List.forall_mem_singleton.mpr le_rfl⟩
        exact (recent other member).trans (not_lt.mp later)
    · rw [measures, samples, buffer, ← List.append_assoc]
      refine List.Sublist.append_right ?_ _
      split
      next => exact (List.append_nil _).symm ▸ (List.sublist_append_left ..).trans once
      next => exact once
    · rw [measures, samples, buffer, if_neg (not_lt.mpr (newest orderly)), ← List.append_assoc, whole (before orderly)]
    · rw [measures] at member
      obtain ⟨covered, waiting⟩ := ended (before orderly) meas member
      rw [buffer, last, if_neg (not_lt.mpr (newest orderly))]
      exact ⟨covered.trans (newest orderly),
        List.forall_mem_append.mpr ⟨waiting, List.forall_mem_singleton.mpr (covered.trans (newest orderly))⟩⟩
    · rw [measures]
      exact fun orderly => apart (before orderly)
  | measured meas none told split until_ beyond covered last =>
    rw [told] at measures
    rw [none, List.append_nil] at samples
    have remaining : entry.after.imuBuffer.Sublist entry.before.imuBuffer := by
      rw [← split]
      exact List.sublist_append_right ..
    have joined : (measuresIn (history ++ [entry])).flatMap (·.imu) ++ entry.after.imuBuffer =
        (measuresIn history).flatMap (·.imu) ++ entry.before.imuBuffer := by
      rw [measures, List.flatMap_append, List.flatMap_singleton, List.append_assoc, split]
    refine ⟨sorted.sublist remaining, ?_, ?_, ?_, fun orderly => ?_, fun orderly => ?_⟩
    · rw [last]
      exact fun imu member => recent imu (remaining.subset member)
    · rwa [joined, samples]
    · rw [joined, samples]
      exact fun orderly => whole (before orderly)
    · rw [measures, last]
      refine List.forall_mem_append.mpr ⟨fun other member => ?_, List.forall_mem_singleton.mpr ⟨covered, beyond sorted⟩⟩
      obtain ⟨earlier, waiting⟩ := ended (before orderly) other member
      exact ⟨earlier, fun imu waits => waiting imu (remaining.subset waits)⟩
    · rw [measures]
      refine List.pairwise_append.mpr ⟨apart (before orderly), List.pairwise_singleton .., fun other member last same => ?_⟩
      rw [List.mem_singleton.mp same]
      intro imu taken
      refine (ended (before orderly) other member).2 imu ?_
      rw [← split]
      exact List.mem_append_left _ taken

theorem run_imuAccount (run : (laserMapping params pImu kf).Run history node) : ImuAccount params history node := by
  induction run with
  | refl => exact ⟨.nil, by simp [laserMapping], .refl _, fun _ => rfl, fun _ => by simp [measuresIn], fun _ => .nil⟩
  | snoc earlier taken ih =>
    have moved : ImuMoved params ⟨_, _, _, _⟩ := imuMoved_of_turned (run_ends earlier) (turned_of_step taken)
    exact imuAccount_snoc ih moved

theorem run_lastTimestampImu (run : (laserMapping params pImu kf).Run history node) :
    node.lastTimestampImu ∈ -1 :: (history.flatMap (imuReceived params)).map (·.stamp) := by
  induction run with
  | refl => exact List.mem_cons_self
  | @snoc before after history event outputs earlier taken ih =>
    have moved : ImuMoved params ⟨before, event, outputs, after⟩ := imuMoved_of_turned (run_ends earlier) (turned_of_step taken)
    rw [List.flatMap_append, List.flatMap_singleton]
    cases moved with
    | kept none _ _ last | measured _ none _ _ _ _ _ last =>
      rw [none, List.append_nil, last]
      exact ih
    | came imu got _ _ last =>
      rw [got, last]
      simp

theorem imuReceived_unsynced (unsynced : params.timeSyncEn = false) :
    (history.flatMap (imuReceived params)).map (·.stamp) =
      (history.filterMap fun entry => clockOf entry.event).map fun stamp => getRosTime (stamp - params.timeDiffLidarToImu) := by
  induction history with
  | nil => rfl
  | cons entry history ih =>
    rw [List.flatMap_cons, List.map_append, ih]
    obtain ⟨before, event, outputs, after⟩ := entry
    cases event with
    | standardPclCbk | livoxPclCbk | timerCallback => rfl
    | imuCbk msg => simp [imuReceived, imuStamp, unsynced, clockOf]

/-- Without the time sync, the stamps follow the clock of the IMU. -/
theorem orderly_of_clocked (unsynced : params.timeSyncEn = false) (run : (laserMapping params pImu kf).Run history node)
    (clocked : Clocked params history) : Orderly params history := by
  have stamps : (-1 :: (history.flatMap (imuReceived params)).map (·.stamp)).Pairwise (· ≤ ·) := by
    rw [imuReceived_unsynced unsynced, List.pairwise_cons, List.forall_mem_map, List.pairwise_map]
    refine ⟨fun stamp member => ?_, clocked.forward.imp fun order => getRosTime_mono (sub_le_sub_right order _)⟩
    have nonneg := getRosTime_nonneg (sub_nonneg.mpr (clocked.late stamp member))
    linarith
  intro entry member imu got
  obtain ⟨past, future, rfl, earlier, _⟩ := run.mem member
  rw [List.flatMap_append, List.map_append, ← List.cons_append, List.pairwise_append] at stamps
  refine stamps.2.2 _ (run_lastTimestampImu earlier) _ ?_
  rw [List.flatMap_cons, List.map_append]
  exact List.mem_append_left _ (List.mem_map_of_mem got)

/-- Every sample of the IMU goes to one measure at most and in its order. A measure has
those that wait and are not younger than its end, all but some that are exactly as old.
As long as the stamps that they are given do not go back, none is lost, and none comes in
a later measure than the first that ends after it. Without the time sync they do not go
back where the clock of the IMU does not. -/
theorem samples_divided (run : (laserMapping params pImu kf).Run history node) :
    ((measuresIn history).flatMap (·.imu) ++ node.imuBuffer).Sublist (history.flatMap (imuReceived params)) ∧
    (∀ entry ∈ history, ∀ meas, .measured meas ∈ entry.outputs →
      meas.imu ++ entry.after.imuBuffer = entry.before.imuBuffer ∧ (∀ imu ∈ meas.imu, imu.stamp ≤ meas.lidarEndTime) ∧
        ∀ imu ∈ entry.after.imuBuffer, meas.lidarEndTime ≤ imu.stamp) ∧
    (Orderly params history →
      (measuresIn history).flatMap (·.imu) ++ node.imuBuffer = history.flatMap (imuReceived params) ∧
      (measuresIn history).Pairwise fun first second => ∀ imu ∈ second.imu, first.lidarEndTime ≤ imu.stamp) ∧
    (params.timeSyncEn = false → Clocked params history → Orderly params history) := by
  have account := run_imuAccount run
  refine ⟨account.once, ?_, fun orderly => ⟨account.whole orderly, account.apart orderly⟩,
    fun unsynced clocked => orderly_of_clocked unsynced run clocked⟩
  intro entry member meas told
  obtain ⟨_, _, rfl, earlier, taken, _⟩ := run.mem member
  have only := mem_measures told
  cases imuMoved_of_turned (run_ends earlier) (turned_of_step taken) with
  | kept _ silent | came _ _ silent => simp [silent] at only
  | measured other _ one split until_ beyond =>
    rw [one, List.mem_singleton] at only
    subst only
    exact ⟨split, until_, beyond (run_imuAccount earlier).sorted⟩

/-- A sample at the beginning of a scan and one after its end -/
theorem tenth_run : ∃ history node, (laserMapping stillNode stillProcess ()).Run history node ∧ Clocked stillNode history ∧
    history.flatMap (imuReceived stillNode) = [⟨0, 0, 0⟩, ⟨1, 0, 0⟩] ∧
    measuresIn history = [⟨0, 0 + 100 / 1000, tenthScan, [⟨0, 0, 0⟩]⟩] := by
  have recorded : (laserMapping stillNode stillProcess ()).record (laserMapping stillNode stillProcess ()).initial
    [.imuCbk ⟨0, 0, 0⟩, .imuCbk ⟨1, 0, 0⟩, .standardPclCbk 0 tenthScan, .timerCallback] = some (_, _) := rfl
  refine ⟨_, _, Machine.path_of_record recorded, ?_, ?_, ?_⟩
  · constructor <;> simp [clockOf, stillNode]
  · simp [imuReceived, laserMapping, LaserMapping.imuCbk, LaserMapping.standardPclCbk, loopBackLidar, pushLidar, imuStamp, stillNode]
  · have long : ¬ (100 : ℝ) / 1000 < 0 := by norm_num
    have covered : ¬ (1 : ℝ) < 100 / 1000 := by norm_num
    have before : (0 : ℝ) < 100 / 1000 := by norm_num
    have beyond : (100 : ℝ) / 1000 < 1 := by norm_num
    have later : ¬ (1 : ℝ) < 0 := by norm_num
    simp [long, covered, before, beyond, later, tenthScan, lastOffset, measuresIn, laserMapping, LaserMapping.timerCallback,
      syncPackages, LaserMapping.standardPclCbk, LaserMapping.imuCbk, loopBackLidar, pushLidar, imuStamp, stillNode, takeUp,
      popImu, useMeasures, measureOf]

theorem samples_divided_tenth : ∃ history node, (laserMapping stillNode stillProcess ()).Run history node ∧
    Orderly stillNode history ∧ (measuresIn history).flatMap (·.imu) = [⟨0, 0, 0⟩] ∧
    (measuresIn history).flatMap (·.imu) ++ node.imuBuffer = [⟨0, 0, 0⟩, ⟨1, 0, 0⟩] := by
  obtain ⟨history, node, run, clocked, samples, measures⟩ := tenth_run
  have orderly := (samples_divided run).2.2.2 rfl clocked
  refine ⟨history, node, run, orderly, by rw [measures]; rfl, ?_⟩
  rw [((samples_divided run).2.2.1 orderly).1, samples]

end FlightStack.Proofs
