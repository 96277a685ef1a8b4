import FlightStack.Library.Averages
import FlightStack.Proofs.ScanTimes

/-! When a measure ends: with the last point of its scan, or after the mean time of the
scans so far where the scan is cut short. -/

namespace FlightStack.Proofs
open LaserMapping
variable {α φ : Type} [Arithmetic α] {params : Parameters α φ}

/-- Whether a scan is too short for its last point to end it -/
def CutShort (kept : List α) (scan : List (PointXYZINormal α)) : Prop :=
  scan.length ≤ 1 ∨ lastOffset scan < 0.5 * mean kept

instance (kept : List α) (scan : List (PointXYZINormal α)) : Decidable (CutShort kept scan) :=
  inferInstanceAs (Decidable (_ ∨ _))

def keepOffset (kept : List α) (scan : List (PointXYZINormal α)) : List α :=
  if CutShort kept scan then kept else kept ++ [lastOffset scan]

/-- The times of the last points of those scans that were long enough when their turn came -/
def keptOffsets (scans : List (List (PointXYZINormal α))) : List α := scans.foldl keepOffset []

def endOf (kept : List α) (meas : MeasureGroup α) : α :=
  meas.lidarBegTime + if CutShort kept meas.lidar then mean kept else lastOffset meas.lidar

def scansIn (history : List (Entry (LaserMapping α φ) (Event α) (Output α))) : List (List (PointXYZINormal α)) :=
  (measuresIn history).map (·.lidar)

/-- The scan that was taken up but is no measure yet -/
def underwayScan (node : LaserMapping α φ) : List (List (PointXYZINormal α)) :=
  if node.lidarPushed then [node.measures.lidar] else []

structure EndsHeld (history : List (Entry (LaserMapping α φ) (Event α) (Output α))) (node : LaserMapping α φ) : Prop where
  mean : node.lidarMeanScantime = mean (keptOffsets (scansIn history ++ underwayScan node))
  count : node.scanNum = (keptOffsets (scansIn history ++ underwayScan node)).length
  ends : node.lidarPushed = true → node.measures.lidarEndTime = endOf (keptOffsets (scansIn history)) node.measures ∧
    node.lidarEndTime = node.measures.lidarEndTime

theorem takeUp_cut {node : LaserMapping α φ} {kept : List α} (scan : List (PointXYZINormal α)) (begTime : α)
    (mean : node.lidarMeanScantime = mean kept) (count : node.scanNum = kept.length) :
    (node.takeUp scan begTime).lidarMeanScantime = FlightStack.mean (keepOffset kept scan) ∧
      (node.takeUp scan begTime).scanNum = (keepOffset kept scan).length ∧
      (node.takeUp scan begTime).measures.lidarEndTime = endOf kept (node.takeUp scan begTime).measures ∧
      (node.takeUp scan begTime).lidarEndTime = (node.takeUp scan begTime).measures.lidarEndTime := by
  rw [takeUp, mean, count]
  split
  next short =>
    have cut : CutShort kept scan := short
    simp [keepOffset, endOf, cut]
  next long =>
    have whole : ¬ CutShort kept scan := long
    simp [keepOffset, endOf, whole, mean_concat]

theorem started_ends {node : LaserMapping α φ} {history : List (Entry (LaserMapping α φ) (Event α) (Output α))}
    (held : EndsHeld history node) (scan : List (PointXYZINormal α)) (begTime : α) :
    EndsHeld history (started node scan begTime) := by
  rw [started]
  split
  next => exact held
  next idle =>
    obtain ⟨mean, count, _⟩ := held
    simp only [underwayScan, idle, Bool.false_eq_true, if_false, List.append_nil] at mean count
    obtain ⟨after, number, ends, same⟩ := takeUp_cut scan begTime mean count
    obtain ⟨_, _, _, kept⟩ := takeUp_eq node scan begTime
    have more : keptOffsets (scansIn history ++ underwayScan (node.takeUp scan begTime)) =
        keepOffset (keptOffsets (scansIn history)) scan := by
      rw [keptOffsets, List.foldl_append, ← keptOffsets, kept]
      rfl
    exact ⟨more ▸ after, more ▸ number, fun _ => ⟨ends, same⟩⟩

variable {pImu : ImuProcess α} {kf : φ} {history : List (Entry (LaserMapping α φ) (Event α) (Output α))}
  {node : LaserMapping α φ}

theorem ends_snoc {node after : LaserMapping α φ} {event : Event α} {outputs : List (Output α)}
    (held : EndsHeld history node) (turned : Turned params node event after outputs) :
    EndsHeld (history ++ [⟨node, event, outputs, after⟩]) after ∧ ∀ meas, .measured meas ∈ outputs →
      meas.lidarEndTime = endOf (keptOffsets (scansIn history)) meas := by
  have scans : scansIn (history ++ [⟨node, event, outputs, after⟩]) =
      scansIn history ++ (outputs.filterMap measureOf).map (·.lidar) := by
    rw [scansIn, measuresIn_snoc, List.map_append, ← scansIn]
  cases turned with
  | scan | imu | idle =>
    rw [List.filterMap_nil, List.map_nil, List.append_nil] at scans
    obtain ⟨mean, count, ends⟩ := held
    exact ⟨⟨scans ▸ mean, scans ▸ count, scans ▸ ends⟩, by simp⟩
  | @waits scan _ begTime =>
    rw [List.filterMap_nil, List.map_nil, List.append_nil] at scans
    obtain ⟨mean, count, ends⟩ := started_ends held scan begTime
    exact ⟨⟨scans ▸ mean, scans ▸ count, scans ▸ ends⟩, by simp⟩
  | @measured scan scansLeft begTime timesLeft imu samples =>
    obtain ⟨mean, count, ends⟩ := started_ends held scan begTime
    rw [measured_alone] at scans
    rw [underwayScan, started_lidarPushed, if_pos rfl] at mean count
    constructor
    · have none : underwayScan
          ((withMeasure (started node scan begTime) scansLeft timesLeft imu samples).useMeasures params).1 = [] := by
        rw [underwayScan, useMeasures_lidarPushed]
        rfl
      refine ⟨?_, ?_, fun pushed => ?_⟩
      · rw [scans, none, List.append_nil, useMeasures_lidarMeanScantime]
        exact mean
      · rw [scans, none, List.append_nil, useMeasures_scanNum]
        exact count
      · rw [useMeasures_lidarPushed] at pushed
        cases pushed
    · intro meas told
      have only := mem_measures told
      rw [measured_alone, List.mem_singleton] at only
      rw [only]
      exact (ends (started_lidarPushed ..)).1

theorem run_ends (run : (laserMapping params pImu kf).Run history node) : EndsHeld history node := by
  induction run with
  | refl => exact ⟨mean_nil.symm, rfl, fun pushed => by cases pushed⟩
  | snoc _ taken ih => exact (ends_snoc ih (turned_of_step taken)).1

/-- A measure ends with the last point of its scan, or after the mean time of the scans
that were kept before it, where the scan has no two points or its last point comes
before half of that mean. -/
theorem measures_end (run : (laserMapping params pImu kf).Run history node) :
    (∀ past entry future meas, history = past ++ entry :: future → .measured meas ∈ entry.outputs →
      meas.lidarEndTime = endOf (keptOffsets (scansIn past)) meas) ∧
    node.lidarMeanScantime = mean (keptOffsets (scansIn history ++ underwayScan node)) := by
  refine ⟨?_, (run_ends run).mean⟩
  rintro past entry future meas rfl told
  obtain ⟨earlier, taken, _⟩ := run.entry
  exact (ends_snoc (run_ends earlier) (turned_of_step taken)).2 meas told

/-- The second scan has a single point. -/
theorem single_run : ∃ past entry node meas, (laserMapping stillNode stillProcess ()).Run (past ++ [entry]) node ∧
    .measured meas ∈ entry.outputs ∧ meas.lidarBegTime = 1 ∧ meas.lidar = [Preprocess.unset] ∧ scansIn past = [tenthScan] := by
  have recorded : (laserMapping stillNode stillProcess ()).record (laserMapping stillNode stillProcess ()).initial
    [.imuCbk ⟨0, 0, 0⟩, .imuCbk ⟨1, 0, 0⟩, .standardPclCbk 0 tenthScan, .timerCallback, .imuCbk ⟨2, 0, 0⟩,
      .standardPclCbk 1 [Preprocess.unset], .timerCallback] = some (_, _) := rfl
  have long : ¬ (100 : ℝ) / 1000 < 0 := by norm_num
  have covered : ¬ (1 : ℝ) < 100 / 1000 := by norm_num
  have before : (0 : ℝ) < 100 / 1000 := by norm_num
  have beyond : (100 : ℝ) / 1000 < 1 := by norm_num
  have later : ¬ (1 : ℝ) < 0 := by norm_num
  have kept : ¬ (2 : ℝ) < 1 := by norm_num
  have second : ¬ (2 : ℝ) < 1 + 100 / 1000 := by norm_num
  have inside : (1 : ℝ) < 1 + 100 / 1000 := by norm_num
  have outside : (1 : ℝ) + 100 / 1000 < 2 := by norm_num
  refine ⟨[_, _, _, _, _, _], _, _, ⟨1, 1 + 100 / 1000, [Preprocess.unset], [⟨1, 0, 0⟩]⟩, Machine.path_of_record recorded,
    ?_, rfl, rfl, ?_⟩
  all_goals simp [kept, second, inside, outside, long, covered, before, beyond, later, imuStamp_stillNode, tenthScan,
    lastOffset, scansIn, measuresIn, measureOf, laserMapping, LaserMapping.timerCallback, syncPackages,
    LaserMapping.standardPclCbk, LaserMapping.imuCbk, loopBackLidar, pushLidar, takeUp, popImu, useMeasures]

theorem measures_end_back : ∃ past entry node meas, (laserMapping stillNode stillProcess ()).Run (past ++ [entry]) node ∧
    .measured meas ∈ entry.outputs ∧ keptOffsets (scansIn past) = [100 / 1000] ∧ CutShort [100 / 1000] meas.lidar ∧
      meas.lidarEndTime = 1 + 100 / 1000 := by
  obtain ⟨past, entry, node, meas, run, told, begins, single, earlier⟩ := single_run
  have kept : keptOffsets (scansIn past) = [100 / 1000] := by
    have long : ¬ (100 : ℝ) / 1000 < 0 := by norm_num
    simp [earlier, keptOffsets, keepOffset, CutShort, tenthScan, lastOffset, mean, long]
  have cut : CutShort [100 / 1000] meas.lidar := .inl (by rw [single]; exact le_rfl)
  refine ⟨past, entry, node, meas, run, told, kept, cut, ?_⟩
  have ends := (measures_end run).1 past entry [] meas rfl told
  rw [kept, endOf, if_pos cut, begins] at ends
  simpa [mean] using ends

end FlightStack.Proofs
