import FlightStack.LaserMapping
import FlightStack.Library.LockStep

/-! Which scan a measure holds and which time it begins at. A clock that goes back
empties the buffer of the scans but not that of their times. -/

namespace FlightStack.Proofs
open LaserMapping
variable {α φ : Type}

def measureOf : Output α → Option (MeasureGroup α)
  | .measured meas => some meas
  | _ => none

@[simp] theorem measureOf_predicted (times : List α) : (times.map Output.predicted).filterMap measureOf = [] := by
  simp [List.filterMap_map, measureOf, Function.comp_def]

def measuresIn (history : List (Entry (LaserMapping α φ) (Event α) (Output α))) : List (MeasureGroup α) :=
  (history.flatMap Entry.outputs).filterMap measureOf

theorem measuresIn_snoc (history : List (Entry (LaserMapping α φ) (Event α) (Output α)))
    (entry : Entry (LaserMapping α φ) (Event α) (Output α)) :
    measuresIn (history ++ [entry]) = measuresIn history ++ entry.outputs.filterMap measureOf := by
  simp [measuresIn]

theorem mem_measures {outputs : List (Output α)} {meas : MeasureGroup α} (told : .measured meas ∈ outputs) :
    meas ∈ outputs.filterMap measureOf := List.mem_filterMap.mpr ⟨_, told, rfl⟩

variable [Arithmetic α] {params : Parameters α φ}

/-- The scan that an event brings, with its time -/
def arrivalOf (params : Parameters α φ) : Event α → Option (α × List (PointXYZINormal α))
  | .standardPclCbk stamp scan => some (stamp, scan)
  | .livoxPclCbk msg => some (getTimeSec msg.stamp, params.preprocess.aviaHandler msg)
  | _ => none

/-- A node that has a scan for its next measure -/
def started (node : LaserMapping α φ) (scan : List (PointXYZINormal α)) (begTime : α) : LaserMapping α φ :=
  if node.lidarPushed then node else node.takeUp scan begTime

/-- A node that has its measure, with what is left of the buffers of the lidar -/
def withMeasure (node : LaserMapping α φ) (scans : List (List (PointXYZINormal α))) (times : List α) (imu : Imu α)
    (samples : List (Imu α)) : LaserMapping α φ :=
  { node with
    lidarBuffer := scans, timeBuffer := times, lidarPushed := false
    imuBuffer := (popImu node.lidarEndTime imu.stamp (imu :: samples)).2
    measures := { node.measures with imu := (popImu node.lidarEndTime imu.stamp (imu :: samples)).1 } }

/-- What an event can come to. -/
inductive Turned (params : Parameters α φ) (node : LaserMapping α φ) :
    Event α → LaserMapping α φ → List (Output α) → Prop where
  | scan {event : Event α} {stamp : α} {scan : List (PointXYZINormal α)} (difference : α) (set : Bool)
      (arrives : arrivalOf params event = some (stamp, scan)) :
      Turned params node event
        { node with
          lidarBuffer := (if !node.isFirstLidar && stamp < node.lastTimestampLidar then [] else node.lidarBuffer) ++ [scan]
          timeBuffer := node.timeBuffer ++ [stamp], isFirstLidar := false, lastTimestampLidar := stamp
          timediffLidarWrtImu := difference, timediffSetFlg := set } []
  | imu (msg : Imu α) : Turned params node (.imuCbk msg) (node.imuCbk params msg) []
  | idle (nothing : node.lidarBuffer = [] ∨ node.timeBuffer = [] ∨ node.imuBuffer = []) :
      Turned params node .timerCallback node []
  | waits {scan : List (PointXYZINormal α)} {scans : List (List (PointXYZINormal α))} {begTime : α} {times : List α}
      (lidar : node.lidarBuffer = scan :: scans) (time : node.timeBuffer = begTime :: times)
      (early : node.lastTimestampImu < (started node scan begTime).lidarEndTime) :
      Turned params node .timerCallback (started node scan begTime) []
  | measured {scan : List (PointXYZINormal α)} {scans : List (List (PointXYZINormal α))} {begTime : α} {times : List α}
      {imu : Imu α} {samples : List (Imu α)} (lidar : node.lidarBuffer = scan :: scans)
      (time : node.timeBuffer = begTime :: times) (buffered : node.imuBuffer = imu :: samples)
      (covered : (started node scan begTime).lidarEndTime ≤ node.lastTimestampImu) :
      Turned params node .timerCallback ((withMeasure (started node scan begTime) scans times imu samples).useMeasures params).1
        (.measured (withMeasure (started node scan begTime) scans times imu samples).measures ::
          ((withMeasure (started node scan begTime) scans times imu samples).useMeasures params).2)

/-- Taking a scan up leaves all but the scan, its times and the mean. -/
theorem takeUp_eq (node : LaserMapping α φ) (scan : List (PointXYZINormal α)) (begTime : α) :
    ∃ endTime mean count, node.takeUp scan begTime =
      { node with
        lidarEndTime := endTime, lidarMeanScantime := mean, scanNum := count, lidarPushed := true
        measures := { node.measures with lidar := scan, lidarBegTime := begTime, lidarEndTime := endTime } } := by
  rw [takeUp]
  split
  all_goals exact ⟨_, _, _, rfl⟩

theorem started_eq (node : LaserMapping α φ) (scan : List (PointXYZINormal α)) (begTime : α) :
    ∃ endTime mean count measures, started node scan begTime =
      { node with
        lidarEndTime := endTime, lidarMeanScantime := mean, scanNum := count, lidarPushed := true, measures } := by
  rw [started]
  split
  next pushed => exact ⟨_, _, _, _, by rw [← pushed]⟩
  next =>
    obtain ⟨_, _, _, same⟩ := takeUp_eq node scan begTime
    exact ⟨_, _, _, _, same⟩

@[simp] theorem started_lidarBuffer (node : LaserMapping α φ) (scan : List (PointXYZINormal α)) (begTime : α) :
    (started node scan begTime).lidarBuffer = node.lidarBuffer := by
  obtain ⟨_, _, _, _, same⟩ := started_eq node scan begTime
  rw [same]

@[simp] theorem started_timeBuffer (node : LaserMapping α φ) (scan : List (PointXYZINormal α)) (begTime : α) :
    (started node scan begTime).timeBuffer = node.timeBuffer := by
  obtain ⟨_, _, _, _, same⟩ := started_eq node scan begTime
  rw [same]

@[simp] theorem started_imuBuffer (node : LaserMapping α φ) (scan : List (PointXYZINormal α)) (begTime : α) :
    (started node scan begTime).imuBuffer = node.imuBuffer := by
  obtain ⟨_, _, _, _, same⟩ := started_eq node scan begTime
  rw [same]

@[simp] theorem started_pImu (node : LaserMapping α φ) (scan : List (PointXYZINormal α)) (begTime : α) :
    (started node scan begTime).pImu = node.pImu := by
  obtain ⟨_, _, _, _, same⟩ := started_eq node scan begTime
  rw [same]

@[simp] theorem started_flgFirstScan (node : LaserMapping α φ) (scan : List (PointXYZINormal α)) (begTime : α) :
    (started node scan begTime).flgFirstScan = node.flgFirstScan := by
  obtain ⟨_, _, _, _, same⟩ := started_eq node scan begTime
  rw [same]

@[simp] theorem started_lidarPushed (node : LaserMapping α φ) (scan : List (PointXYZINormal α)) (begTime : α) :
    (started node scan begTime).lidarPushed = true := by
  obtain ⟨_, _, _, _, same⟩ := started_eq node scan begTime
  rw [same]

@[simp] theorem started_lastTimestampImu (node : LaserMapping α φ) (scan : List (PointXYZINormal α)) (begTime : α) :
    (started node scan begTime).lastTimestampImu = node.lastTimestampImu := by
  obtain ⟨_, _, _, _, same⟩ := started_eq node scan begTime
  rw [same]

theorem turned_of_step {node after : LaserMapping α φ} {event : Event α} {outputs : List (Output α)}
    (taken : step params node event = some (after, outputs)) : Turned params node event after outputs := by
  cases event with
  | standardPclCbk stamp scan =>
    obtain ⟨rfl, rfl⟩ := Prod.mk.inj (Option.some.inj taken)
    exact .scan _ _ rfl
  | livoxPclCbk msg =>
    obtain ⟨rfl, rfl⟩ := Prod.mk.inj (Option.some.inj taken)
    rw [livoxPclCbk, selfSync]
    split
    all_goals exact .scan _ _ rfl
  | imuCbk msg =>
    obtain ⟨rfl, rfl⟩ := Prod.mk.inj (Option.some.inj taken)
    exact .imu msg
  | timerCallback =>
    simp only [step, LaserMapping.timerCallback] at taken
    revert taken
    fun_cases syncPackages node with
    | case1 scan scans begTime times imu samples buffered time lidar next early =>
      intro taken
      obtain ⟨rfl, rfl⟩ := Prod.mk.inj (Option.some.inj taken)
      exact .waits lidar time (started_lastTimestampImu node scan begTime ▸ early)
    | case2 scan scans begTime times imu samples buffered time lidar next covered =>
      intro taken
      obtain ⟨rfl, rfl⟩ := Prod.mk.inj (Option.some.inj taken)
      exact .measured lidar time buffered (started_lastTimestampImu node scan begTime ▸ not_lt.mp covered)
    | case3 nothing =>
      intro taken
      obtain ⟨rfl, rfl⟩ := Prod.mk.inj (Option.some.inj taken)
      refine .idle ?_
      rcases lidar : node.lidarBuffer with _ | ⟨scan, scans⟩
      · exact .inl rfl
      · rcases time : node.timeBuffer with _ | ⟨begTime, times⟩
        · exact .inr (.inl rfl)
        · rcases buffered : node.imuBuffer with _ | ⟨imu, samples⟩
          · exact .inr (.inr rfl)
          · exact (nothing _ _ _ _ _ _ lidar time buffered).elim

/-- What is made of a measure leaves the buffers and the measure. -/
theorem useMeasures_eq (params : Parameters α φ) (node : LaserMapping α φ) :
    ∃ first begTime pImu kf scan, (node.useMeasures params).1 =
      { node with flgFirstScan := first, firstLidarTime := begTime, pImu, kf, featsUndistort := scan } := by
  rw [useMeasures]
  split
  next => exact ⟨_, _, _, _, _, rfl⟩
  next =>
    dsimp only
    split
    all_goals exact ⟨_, _, _, _, _, rfl⟩

@[simp] theorem useMeasures_lidarBuffer (node : LaserMapping α φ) :
    (node.useMeasures params).1.lidarBuffer = node.lidarBuffer := by
  obtain ⟨_, _, _, _, _, same⟩ := useMeasures_eq params node
  rw [same]

@[simp] theorem useMeasures_timeBuffer (node : LaserMapping α φ) :
    (node.useMeasures params).1.timeBuffer = node.timeBuffer := by
  obtain ⟨_, _, _, _, _, same⟩ := useMeasures_eq params node
  rw [same]

@[simp] theorem useMeasures_imuBuffer (node : LaserMapping α φ) :
    (node.useMeasures params).1.imuBuffer = node.imuBuffer := by
  obtain ⟨_, _, _, _, _, same⟩ := useMeasures_eq params node
  rw [same]

@[simp] theorem useMeasures_lastTimestampImu (node : LaserMapping α φ) :
    (node.useMeasures params).1.lastTimestampImu = node.lastTimestampImu := by
  obtain ⟨_, _, _, _, _, same⟩ := useMeasures_eq params node
  rw [same]

@[simp] theorem useMeasures_lidarPushed (node : LaserMapping α φ) :
    (node.useMeasures params).1.lidarPushed = node.lidarPushed := by
  obtain ⟨_, _, _, _, _, same⟩ := useMeasures_eq params node
  rw [same]

@[simp] theorem useMeasures_lidarMeanScantime (node : LaserMapping α φ) :
    (node.useMeasures params).1.lidarMeanScantime = node.lidarMeanScantime := by
  obtain ⟨_, _, _, _, _, same⟩ := useMeasures_eq params node
  rw [same]

@[simp] theorem useMeasures_scanNum (node : LaserMapping α φ) : (node.useMeasures params).1.scanNum = node.scanNum := by
  obtain ⟨_, _, _, _, _, same⟩ := useMeasures_eq params node
  rw [same]

/-- The first measure is only noted. -/
theorem useMeasures_first {node : LaserMapping α φ} (first : node.flgFirstScan = true) : (node.useMeasures params).1 =
    { node with
      flgFirstScan := false, firstLidarTime := node.measures.lidarBegTime
      pImu := { node.pImu with firstLidarTime := node.measures.lidarBegTime } } := by
  rw [useMeasures, if_pos first]

theorem useMeasures_pImu (node : LaserMapping α φ) : (node.useMeasures params).1.pImu =
    if node.flgFirstScan then { node.pImu with firstLidarTime := node.measures.lidarBegTime }
    else (ImuProcess.process params.filter params.time node.measures node.pImu node.kf).proc := by
  rw [useMeasures]
  split
  next => rfl
  next =>
    dsimp only
    split
    all_goals rfl

/-- The measure is the only one that is told of. -/
theorem measured_alone (meas : MeasureGroup α) (node : LaserMapping α φ) :
    (.measured meas :: (node.useMeasures params).2).filterMap measureOf = [meas] := by
  have told : measureOf (.measured meas) = some meas := rfl
  rw [List.filterMap_cons_some told, useMeasures]
  split
  next => rfl
  next =>
    dsimp only
    split
    all_goals simp [measureOf]

variable {pImu : ImuProcess α} {kf : φ}
  {history past future : List (Entry (LaserMapping α φ) (Event α) (Output α))}
  {entry : Entry (LaserMapping α φ) (Event α) (Output α)} {node : LaserMapping α φ}

def arrivals (params : Parameters α φ) (history : List (Entry (LaserMapping α φ) (Event α) (Output α))) :
    List (α × List (PointXYZINormal α)) :=
  history.filterMap fun entry => arrivalOf params entry.event

/-- The scans that a step throws away -/
def lostIn (params : Parameters α φ) (entry : Entry (LaserMapping α φ) (Event α) (Output α)) : Nat :=
  (arrivalOf params entry.event).elim 0 fun _ => entry.before.lidarBuffer.length + 1 - entry.after.lidarBuffer.length

def lost (params : Parameters α φ) (history : List (Entry (LaserMapping α φ) (Event α) (Output α))) : Nat :=
  (history.map (lostIn params)).sum

/-- The times and the scans of all measures so far and of those to come -/
structure ScanAccount (params : Parameters α φ) (history : List (Entry (LaserMapping α φ) (Event α) (Output α)))
    (node : LaserMapping α φ) : Prop where
  times : (measuresIn history).map (·.lidarBegTime) ++ node.timeBuffer = (arrivals params history).map Prod.fst
  scans : node.lidarBuffer = ((arrivals params history).map Prod.snd).drop ((measuresIn history).length + lost params history)
  count : (measuresIn history).length + lost params history + node.lidarBuffer.length = (arrivals params history).length
  begun : node.lidarPushed = true → node.timeBuffer.head? = some node.measures.lidarBegTime

theorem started_begins {node : LaserMapping α φ} {begTime : α} {times : List α}
    (begun : node.lidarPushed = true → node.timeBuffer.head? = some node.measures.lidarBegTime)
    (time : node.timeBuffer = begTime :: times) (scan : List (PointXYZINormal α)) :
    (started node scan begTime).measures.lidarBegTime = begTime := by
  rw [started]
  split
  next pushed =>
    rw [time] at begun
    exact (Option.some.inj (begun pushed)).symm
  next =>
    obtain ⟨_, _, _, same⟩ := takeUp_eq node scan begTime
    rw [same]

theorem account_snoc {node after : LaserMapping α φ} {event : Event α} {outputs : List (Output α)}
    (account : ScanAccount params history node) (turned : Turned params node event after outputs) :
    ScanAccount params (history ++ [⟨node, event, outputs, after⟩]) after := by
  obtain ⟨times, scans, count, begun⟩ := account
  have alone (none : arrivalOf params event = none) :
      arrivals params (history ++ [⟨node, event, outputs, after⟩]) = arrivals params history ∧
        lost params (history ++ [⟨node, event, outputs, after⟩]) = lost params history := by
    simp [arrivals, lost, lostIn, none]
  have arrived {stamp : α} {scan : List (PointXYZINormal α)} (some : arrivalOf params event = some (stamp, scan)) :
      arrivals params (history ++ [⟨node, event, outputs, after⟩]) = arrivals params history ++ [(stamp, scan)] ∧
        lost params (history ++ [⟨node, event, outputs, after⟩]) =
          lost params history + (node.lidarBuffer.length + 1 - after.lidarBuffer.length) := by
    simp [arrivals, lost, lostIn, some]
  have measures := measuresIn_snoc history ⟨node, event, outputs, after⟩
  cases turned with
  | @scan _ stamp scan difference set arrives =>
    obtain ⟨more, missing⟩ := arrived arrives
    rw [List.filterMap_nil, List.append_nil] at measures
    refine ⟨?_, ?_, ?_, ?_⟩
    · rw [more, measures, List.map_append, ← times, List.append_assoc]
      rfl
    · rw [measures, missing, more, List.map_append, List.map_singleton]
      dsimp only
      split
      next =>
        have all : (measuresIn history).length + (lost params history + node.lidarBuffer.length) =
            ((arrivals params history).map Prod.snd).length := by rw [List.length_map, ← count, Nat.add_assoc]
        rw [List.nil_append, List.length_singleton, Nat.add_sub_cancel, all, List.drop_left]
      next =>
        have inside : (measuresIn history).length + lost params history ≤ ((arrivals params history).map Prod.snd).length := by
          rw [List.length_map, ← count]
          exact Nat.le_add_right ..
        rw [List.length_append, List.length_singleton, Nat.sub_self, Nat.add_zero, List.drop_append_of_le_length inside,
          ← scans]
    · rw [measures, missing, more]
      dsimp only
      split
      all_goals
        simp only [List.length_append, List.length_nil, List.length_singleton]
        omega
    · intro pushed
      obtain ⟨_, first⟩ := List.head?_eq_some_iff.mp (begun pushed)
      simp [first]
  | imu | idle =>
    obtain ⟨same, none⟩ := alone rfl
    rw [List.filterMap_nil, List.append_nil] at measures
    exact ⟨by rwa [measures, same], by rwa [measures, same, none], by rwa [measures, same, none], begun⟩
  | @waits scan _ begTime _ lidar time early =>
    obtain ⟨same, none⟩ := alone rfl
    rw [List.filterMap_nil, List.append_nil] at measures
    refine ⟨?_, ?_, ?_, fun _ => ?_⟩
    · rwa [measures, same, started_timeBuffer]
    · rwa [measures, same, none, started_lidarBuffer]
    · rwa [measures, same, none, started_lidarBuffer]
    · rw [started_begins begun time scan, started_timeBuffer, time]
      rfl
  | @measured scan scansLeft begTime timesLeft imu samples lidar time buffered covered =>
    obtain ⟨same, none⟩ := alone rfl
    rw [measured_alone] at measures
    rw [time] at times
    rw [lidar] at scans count
    refine ⟨?_, ?_, ?_, ?_⟩
    · rw [measures, same, useMeasures_timeBuffer, List.map_append, ← times, List.append_assoc]
      exact congrArg (_ ++ · :: timesLeft) (started_begins begun time scan)
    · rw [measures, same, none, useMeasures_lidarBuffer, List.length_append, Nat.add_right_comm, List.length_singleton,
        ← List.tail_drop, ← scans]
      rfl
    · rw [measures, same, none, useMeasures_lidarBuffer, ← count, List.length_append, List.length_singleton, List.length_cons]
      dsimp only [withMeasure]
      omega
    · rw [useMeasures_lidarPushed]
      intro pushed
      cases pushed

/-- The scans and the times of all runs are accounted for. -/
theorem run_account (run : (laserMapping params pImu kf).Run history node) : ScanAccount params history node := by
  induction run with
  | refl => exact ⟨rfl, rfl, rfl, by simp [laserMapping]⟩
  | snoc _ taken ih => exact account_snoc ih (turned_of_step taken)

/-- A call of the timer takes the scan of a measure up. The scan came as many places
after the one that its time is of as scans had been lost until then. -/
structure TakenUp (params : Parameters α φ) (early : List (Entry (LaserMapping α φ) (Event α) (Output α)))
    (taking : Entry (LaserMapping α φ) (Event α) (Output α)) (count : Nat) (meas : MeasureGroup α) : Prop where
  event : taking.event = .timerCallback
  idle : taking.before.lidarPushed = false
  number : (measuresIn early).length = count
  time : (arrivals params early)[count]?.map Prod.fst = some meas.lidarBegTime
  scan : (arrivals params early)[count + lost params early]?.map Prod.snd = some meas.lidar

theorem ScanAccount.takes {node after : LaserMapping α φ} {outputs : List (Output α)}
    {scan : List (PointXYZINormal α)} {scans : List (List (PointXYZINormal α))} {begTime : α} {times : List α}
    (account : ScanAccount params history node) (lidar : node.lidarBuffer = scan :: scans)
    (time : node.timeBuffer = begTime :: times) (idle : ¬ node.lidarPushed = true) :
    TakenUp params history ⟨node, .timerCallback, outputs, after⟩ (measuresIn history).length
      (started node scan begTime).measures := by
  obtain ⟨_, _, _, same⟩ := takeUp_eq node scan begTime
  rw [started, if_neg idle, same]
  refine ⟨rfl, Bool.eq_false_iff.mpr idle, rfl, ?_, ?_⟩
  · rw [← List.getElem?_map, ← account.times, time]
    simp
  · rw [← List.getElem?_map, ← List.head?_drop, ← account.scans, lidar]
    rfl

/-- The scan of a measure that is under way was taken up. -/
def Pushed (params : Parameters α φ) (history : List (Entry (LaserMapping α φ) (Event α) (Output α)))
    (node : LaserMapping α φ) : Prop :=
  node.lidarPushed = true → ∃ early taking later, history = early ++ taking :: later ∧ taking.after.lidarPushed = true ∧
    TakenUp params early taking (measuresIn history).length node.measures

theorem Pushed.stays {node after : LaserMapping α φ} {event : Event α} {outputs : List (Output α)}
    (before : Pushed params history node) (silent : outputs.filterMap measureOf = [])
    (pushed : after.lidarPushed = node.lidarPushed) (same : after.measures = node.measures) :
    Pushed params (history ++ [⟨node, event, outputs, after⟩]) after := by
  intro under
  obtain ⟨early, taking, later, rfl, stays, taken⟩ := before (pushed ▸ under)
  refine ⟨early, taking, later ++ [⟨node, event, outputs, after⟩], by simp, stays, ?_⟩
  rw [same, measuresIn_snoc, silent, List.append_nil]
  exact taken

theorem pushed_snoc {node after : LaserMapping α φ} {event : Event α} {outputs : List (Output α)}
    (account : ScanAccount params history node) (before : Pushed params history node)
    (turned : Turned params node event after outputs) :
    Pushed params (history ++ [⟨node, event, outputs, after⟩]) after ∧ ∀ meas, .measured meas ∈ outputs →
      ∃ early taking later, history ++ [⟨node, event, outputs, after⟩] = early ++ taking :: later ∧
        (taking.after.lidarPushed = true ∨ later = []) ∧ TakenUp params early taking (measuresIn history).length meas := by
  cases turned with
  | scan | imu | idle => exact ⟨before.stays rfl rfl rfl, by simp⟩
  | @waits scan _ begTime _ lidar time early =>
    refine ⟨?_, by simp⟩
    by_cases under : node.lidarPushed = true
    · have same : started node scan begTime = node := if_pos under
      rw [same]
      exact before.stays rfl rfl rfl
    · intro pushed
      refine ⟨history, _, [], rfl, pushed, ?_⟩
      rw [measuresIn_snoc, List.filterMap_nil, List.append_nil]
      exact account.takes lidar time under
  | @measured scan scansLeft begTime timesLeft imu samples lidar time buffered covered =>
    refine ⟨?_, fun meas told => ?_⟩
    · intro pushed
      rw [useMeasures_lidarPushed] at pushed
      cases pushed
    · have same : meas = (withMeasure (started node scan begTime) scansLeft timesLeft imu samples).measures := by
        have only := mem_measures told
        rwa [measured_alone, List.mem_singleton] at only
      by_cases under : node.lidarPushed = true
      · obtain ⟨early, taking, later, rfl, stays, taken⟩ := before under
        refine ⟨early, taking, _, List.append_assoc .., .inl stays, ?_⟩
        rw [same, started, if_pos under]
        exact { taken with }
      · refine ⟨history, _, [], rfl, .inr rfl, ?_⟩
        rw [same]
        exact { account.takes lidar time under with }

theorem run_underway (run : (laserMapping params pImu kf).Run history node) : Pushed params history node := by
  induction run with
  | refl =>
    intro pushed
    cases pushed
  | snoc earlier taken ih => exact (pushed_snoc (run_account earlier) ih (turned_of_step taken)).1

/-- The scan of a measure was taken up when it was told of or before. -/
theorem takenUp_of_measured (run : (laserMapping params pImu kf).Run (past ++ entry :: future) node) {meas : MeasureGroup α}
    (told : .measured meas ∈ entry.outputs) : ∃ early taking later, past ++ [entry] = early ++ taking :: later ∧
      (taking.after.lidarPushed = true ∨ later = []) ∧ TakenUp params early taking (measuresIn past).length meas := by
  obtain ⟨earlier, taken, _⟩ := run.entry
  exact (pushed_snoc (run_account earlier) (run_underway earlier) (turned_of_step taken)).2 meas told

/-- The times of the scans are used up in the order that they come in, but a scan that is
lost leaves its time in the buffer: the scan of a measure came as many places after the
one that gives its beginning as scans had been lost when it was taken up. -/
theorem scans_lag (run : (laserMapping params pImu kf).Run history node) :
    (measuresIn history).map (·.lidarBegTime) ++ node.timeBuffer = (arrivals params history).map Prod.fst ∧
      node.lidarBuffer = ((arrivals params history).map Prod.snd).drop ((measuresIn history).length + lost params history) ∧
      ∀ past entry future meas, history = past ++ entry :: future → .measured meas ∈ entry.outputs →
        ∃ early taking later, past ++ [entry] = early ++ taking :: later ∧
          (taking.after.lidarPushed = true ∨ later = []) ∧ TakenUp params early taking (measuresIn past).length meas := by
  refine ⟨(run_account run).times, (run_account run).scans, ?_⟩
  rintro past entry future meas rfl told
  exact takenUp_of_measured run told

/-- Points sorted by insertion -/
noncomputable def byTime : TimeSort ℝ where
  sort := List.insertionSort fun first second => first.curvature ≤ second.curvature
  perm := List.perm_insertionSort _
  sorted points :=
    letI : Std.Total fun first second : PointXYZINormal ℝ => first.curvature ≤ second.curvature := ⟨fun _ _ => le_total ..⟩
    letI : IsTrans (PointXYZINormal ℝ) fun first second => first.curvature ≤ second.curvature := ⟨fun _ _ _ => le_trans⟩
    List.pairwise_insertionSort _ points

/-- A filter that keeps to its first state -/
def stillFilter : Esekf ℝ Unit where
  getX _ := ⟨0, 1, 1, 0, 0, 0, 0, 0⟩
  changeX _ kf := kf
  initP kf := kf
  predict _ _ _ kf := kf

noncomputable def stillNode : Parameters ℝ Unit := ⟨⟨4, 1, 3, false, id⟩, false, 0, stillFilter, byTime, fun _ _ kf => kf⟩

theorem imuStamp_stillNode (node : LaserMapping ℝ Unit) (stamp : ℝ) : imuStamp stillNode node stamp = getRosTime stamp := by
  simp [imuStamp, stillNode]

def stillProcess : ImuProcess ℝ where
  lidarRWrtImu := 1
  lidarTWrtImu := 0
  covAccScale := 0
  covGyrScale := 0
  covBiasGyr := 0
  covBiasAcc := 0
  covAcc := 0
  covGyr := 0
  q := ⟨0, 0, 0, 0⟩
  meanAcc := 0
  meanGyr := 0
  angvelLast := 0
  accSLast := 0
  lastImu := ⟨0, 0, 0⟩
  lastLidarEndTime := 0
  firstLidarTime := 0

/-- Two points, the second a tenth of a second behind the first -/
noncomputable def tenthScan : List (PointXYZINormal ℝ) := [Preprocess.unset, { Preprocess.unset with curvature := 100 }]

/-- The clock of the lidar goes back by two seconds, and the scan from after that is
given the time of the one that was lost. -/
theorem back_run : ∃ history node, (laserMapping stillNode stillProcess ()).Run history node ∧
    measuresIn history = [⟨5, 5 + 100 / 1000, tenthScan, []⟩] ∧ arrivals stillNode history = [(5, []), (3, tenthScan)] := by
  have recorded : (laserMapping stillNode stillProcess ()).record (laserMapping stillNode stillProcess ()).initial
    [.standardPclCbk 5 [], .standardPclCbk 3 tenthScan, .imuCbk ⟨10, 0, 0⟩, .timerCallback] = some (_, _) := rfl
  refine ⟨_, _, Machine.path_of_record recorded, ?_, rfl⟩
  have back : (3 : ℝ) < 5 := by norm_num
  have long : ¬ (100 : ℝ) / 1000 < 0 := by norm_num
  have covered : ¬ (10 : ℝ) < 5 + 100 / 1000 := by norm_num
  simp [back, long, covered, tenthScan, lastOffset, measuresIn, laserMapping, LaserMapping.timerCallback, syncPackages,
    LaserMapping.standardPclCbk, LaserMapping.imuCbk, loopBackLidar, pushLidar, imuStamp, stillNode, takeUp, popImu,
    useMeasures, measureOf]

theorem scans_lag_back : ∃ history node, (laserMapping stillNode stillProcess ()).Run history node ∧
    (measuresIn history).map (·.lidar) = [tenthScan] ∧ (arrivals stillNode history).map Prod.snd = [[], tenthScan] ∧
    (measuresIn history).map (·.lidarBegTime) ++ node.timeBuffer = [5, 3] := by
  obtain ⟨history, node, run, measures, arrived⟩ := back_run
  refine ⟨history, node, run, by rw [measures]; rfl, by rw [arrived]; rfl, ?_⟩
  rw [(scans_lag run).1, arrived]
  rfl

end FlightStack.Proofs
