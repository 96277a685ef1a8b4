import FlightStack.Proofs.ImuPartition

/-! The samples that start the filter: their means are what it starts with, and it starts
with the measure that brings the tenth. -/

namespace FlightStack.Proofs
open LaserMapping
variable {α φ : Type} [Arithmetic α]

/-- The count and the means of `IMU_init` after some samples -/
structure Averaged (samples : List (Imu α)) (proc : ImuProcess α) : Prop where
  count : proc.initIterNum = samples.length + 1
  acc : samples ≠ [] → ∀ i, proc.meanAcc i = mean (samples.map (·.linearAcceleration i))
  gyr : samples ≠ [] → ∀ i, proc.meanGyr i = mean (samples.map (·.angularVelocity i))

theorem mean_step {samples : List (Imu α)} {proc : ImuProcess α} (averaged : Averaged samples proc) (imu : Imu α)
    (part : Imu α → α) (value : α) (same : samples ≠ [] → value = mean (samples.map part)) :
    value + (part imu - value) / (proc.initIterNum : α) = mean ((samples ++ [imu]).map part) := by
  rw [averaged.count, List.map_append, List.map_singleton]
  rcases List.eq_nil_or_concat samples with rfl | ⟨shorter, last, rfl⟩
  · simp
  · rw [mean_concat, same (by simp), List.length_map]

theorem initRound_averaged {samples : List (Imu α)} {proc : ImuProcess α} (averaged : Averaged samples proc) (imu : Imu α) :
    Averaged (samples ++ [imu]) (proc.initRound imu) where
  count := by
    rw [List.length_append, List.length_singleton, ← averaged.count]
    rfl
  acc _ i := mean_step averaged imu (·.linearAcceleration i) _ fun some => averaged.acc some i
  gyr _ i := mean_step averaged imu (·.angularVelocity i) _ fun some => averaged.gyr some i

theorem initRounds_averaged {samples : List (Imu α)} {proc : ImuProcess α} (averaged : Averaged samples proc)
    (more : List (Imu α)) : Averaged (samples ++ more) (more.foldl ImuProcess.initRound proc) := by
  induction more generalizing samples proc with
  | nil => rwa [List.append_nil]
  | cons imu rest ih =>
    rw [List.foldl_cons, List.append_cons]
    exact ih (initRound_averaged averaged imu)

/-- The rounds leave what says whether the filter has started. -/
theorem initRounds_apart (proc : ImuProcess α) (more : List (Imu α)) :
    (more.foldl ImuProcess.initRound proc).bFirstFrame = proc.bFirstFrame := by
  induction more generalizing proc with
  | nil => rfl
  | cons imu rest ih => exact ih _

/-- Where the start of the filter is after some samples -/
structure InitHeld (samples : List (Imu α)) (proc : ImuProcess α) : Prop where
  fresh : proc.bFirstFrame = true ↔ samples = []
  averaged : samples ≠ [] → Averaged samples proc
  done : proc.imuNeedInit = false ↔ maxIniCount ≤ samples.length

theorem firstFrame_averaged {samples : List (Imu α)} {proc : ImuProcess α} (held : InitHeld samples proc)
    (meas : MeasureGroup α) (first : Imu α) :
    Averaged samples (proc.firstFrame meas first) ∧ (proc.firstFrame meas first).bFirstFrame = false := by
  rw [ImuProcess.firstFrame]
  split
  next fresh =>
    obtain rfl := held.fresh.mp fresh
    exact ⟨⟨rfl, fun some => absurd rfl some, fun some => absurd rfl some⟩, rfl⟩
  next begun => exact ⟨held.averaged (held.fresh.not.mp begun), Bool.eq_false_iff.mpr begun⟩

theorem imuInit_averaged {samples : List (Imu α)} {proc : ImuProcess α} (held : InitHeld samples proc)
    (filter : Esekf α φ) (meas : MeasureGroup α) (first : Imu α) (kf : φ) :
    Averaged (samples ++ meas.imu) (ImuProcess.imuInit filter meas first proc kf).1 ∧
      (ImuProcess.imuInit filter meas first proc kf).1.bFirstFrame = false := by
  obtain ⟨averaged, begun⟩ := firstFrame_averaged held meas first
  obtain ⟨count, acc, gyr⟩ := initRounds_averaged averaged meas.imu
  exact ⟨⟨count, acc, gyr⟩, (initRounds_apart _ meas.imu).trans begun⟩

/-- What a measure adds to the samples that the filter starts with -/
theorem process_init {samples : List (Imu α)} {proc : ImuProcess α} (held : InitHeld samples proc) (filter : Esekf α φ)
    (time : TimeSort α) (meas : MeasureGroup α) (kf : φ) :
    InitHeld (samples ++ if proc.imuNeedInit then meas.imu else []) (ImuProcess.process filter time meas proc kf).proc := by
  fun_cases ImuProcess.process filter time meas proc kf with
  | case1 none => simpa [none] using held
  | case2 first rest some needed after kfAfter init enough | case3 first rest some needed after kfAfter init enough =>
    obtain ⟨averaged, begun⟩ := imuInit_averaged held filter meas first kf
    rw [init] at averaged begun
    have more : samples ++ meas.imu ≠ [] := by simp [some]
    rw [if_pos needed]
    refine ⟨iff_of_false (Bool.eq_false_iff.mp begun) more, fun _ => ⟨averaged.count, averaged.acc, averaged.gyr⟩, ?_⟩
    rw [averaged.count] at enough
    simp only [true_iff, Bool.true_eq_false, false_iff]
    omega
  | case4 first rest some started =>
    rw [if_neg started, List.append_nil]
    exact ⟨held.fresh, fun more => ⟨(held.averaged more).count, (held.averaged more).acc, (held.averaged more).gyr⟩, held.done⟩

variable {params : Parameters α φ} {pImu : ImuProcess α} {kf : φ}
  {history : List (Entry (LaserMapping α φ) (Event α) (Output α))} {node : LaserMapping α φ}

/-- The samples that a step starts the filter with. The first measure is passed over. -/
def startingIn (entry : Entry (LaserMapping α φ) (Event α) (Output α)) : List (Imu α) :=
  if !entry.before.flgFirstScan && entry.before.pImu.imuNeedInit
  then (entry.outputs.filterMap measureOf).flatMap (·.imu) else []

theorem turned_init {samples : List (Imu α)} {node after : LaserMapping α φ} {event : Event α} {outputs : List (Output α)}
    (held : InitHeld samples node.pImu) (turned : Turned params node event after outputs) :
    InitHeld (samples ++ startingIn ⟨node, event, outputs, after⟩) after.pImu := by
  have quiet (silent : outputs.filterMap measureOf = []) : startingIn ⟨node, event, outputs, after⟩ = [] := by
    simp [startingIn, silent]
  cases turned with
  | scan | imu | idle =>
    rw [quiet rfl, List.append_nil]
    exact held
  | @waits scan _ begTime =>
    rw [quiet rfl, List.append_nil, started_pImu]
    exact held
  | @measured scan scansLeft begTime timesLeft imu popped =>
    rw [startingIn, measured_alone, useMeasures_pImu]
    simp only [withMeasure, started_flgFirstScan, started_pImu, List.flatMap_singleton]
    cases first : node.flgFirstScan with
    | true =>
      simp only [Bool.not_true, Bool.false_and, Bool.false_eq_true, if_false, if_true, List.append_nil]
      exact ⟨held.fresh, fun more => ⟨(held.averaged more).count, (held.averaged more).acc, (held.averaged more).gyr⟩, held.done⟩
    | false =>
      simp only [Bool.not_false, Bool.true_and, Bool.false_eq_true, if_false]
      exact process_init held params.filter params.time
        (withMeasure (started node scan begTime) scansLeft timesLeft imu popped).measures _

/-- The filter starts with the means of all samples of the measures after the first until
there are ten of them, and it has started as soon as there are as many. -/
theorem imu_start (fresh : pImu.bFirstFrame = true) (needed : pImu.imuNeedInit = true)
    (run : (laserMapping params pImu kf).Run history node) :
    (history.flatMap startingIn ≠ [] → ∀ i,
      node.pImu.meanAcc i = mean ((history.flatMap startingIn).map (·.linearAcceleration i)) ∧
        node.pImu.meanGyr i = mean ((history.flatMap startingIn).map (·.angularVelocity i))) ∧
      (node.pImu.imuNeedInit = false ↔ maxIniCount ≤ (history.flatMap startingIn).length) := by
  have held : InitHeld (history.flatMap startingIn) node.pImu := by
    induction run with
    | refl =>
      have unstarted : ¬ (laserMapping params pImu kf).initial.pImu.imuNeedInit = false := by simp [laserMapping, needed]
      exact ⟨iff_of_true fresh rfl, fun some => absurd rfl some, iff_of_false unstarted (Nat.not_succ_le_zero _)⟩
    | snoc _ taken ih =>
      rw [List.flatMap_append, List.flatMap_singleton]
      exact turned_init ih (turned_of_step taken)
  exact ⟨fun some i => ⟨(held.averaged some).acc some i, (held.averaged some).gyr some i⟩, held.done⟩

/-- Two scans, the second one with two samples. Only these start the filter. -/
theorem two_scans_run : ∃ history node, (laserMapping stillNode stillProcess ()).Run history node ∧
    history.flatMap startingIn = [⟨1, 0, fun _ => 2⟩, ⟨1.05, 0, fun _ => 4⟩] := by
  have recorded : (laserMapping stillNode stillProcess ()).record (laserMapping stillNode stillProcess ()).initial
    [.imuCbk ⟨0, 0, 0⟩, .imuCbk ⟨1, 0, fun _ => 2⟩, .standardPclCbk 0 tenthScan, .timerCallback,
      .imuCbk ⟨1.05, 0, fun _ => 4⟩, .imuCbk ⟨2, 0, 0⟩, .standardPclCbk 1 tenthScan, .timerCallback] = some (_, _) := rfl
  refine ⟨_, _, Machine.path_of_record recorded, ?_⟩
  have long : ¬ (100 : ℝ) / 1000 < 0 := by norm_num
  have covered : ¬ (1 : ℝ) < 100 / 1000 := by norm_num
  have before : (0 : ℝ) < 100 / 1000 := by norm_num
  have beyond : (100 : ℝ) / 1000 < 1 := by norm_num
  have later : ¬ (1 : ℝ) < 0 := by norm_num
  have between : getRosTime (1.05 : ℝ) = 1.05 := by
    rw [getRosTime_eq]
    norm_num
  have kept : ¬ (1.05 : ℝ) < 1 := by norm_num
  have last : ¬ (2 : ℝ) < 1.05 := by norm_num
  have half : ¬ (100 : ℝ) / 1000 < 0.5 * (100 / 1000) := by norm_num
  have second : ¬ (2 : ℝ) < 1 + 100 / 1000 := by norm_num
  have inside : (1 : ℝ) < 1 + 100 / 1000 := by norm_num
  have within : ¬ (1 : ℝ) + 100 / 1000 < 1.05 := by norm_num
  have outside : (1 : ℝ) + 100 / 1000 < 2 := by norm_num
  have needed : stillProcess.imuNeedInit = true := rfl
  simp [kept, last, between, half, second, inside, within, outside, long, covered, before, beyond, later, needed,
    useMeasures_first, imuStamp_stillNode, measured_alone, tenthScan, lastOffset, startingIn, laserMapping,
    LaserMapping.timerCallback, syncPackages, LaserMapping.standardPclCbk, LaserMapping.imuCbk, loopBackLidar, pushLidar,
    takeUp, popImu]

theorem imu_start_two : ∃ history node, (laserMapping stillNode stillProcess ()).Run history node ∧
    (history.flatMap startingIn).length = 2 ∧ node.pImu.meanAcc 2 = 3 ∧ node.pImu.imuNeedInit = true := by
  obtain ⟨history, node, run, samples⟩ := two_scans_run
  obtain ⟨means, done⟩ := imu_start rfl rfl run
  rw [samples] at means done
  refine ⟨history, node, run, by rw [samples]; rfl, ?_, ?_⟩
  · rw [(means (by simp) 2).1]
    norm_num [mean]
  · simpa [maxIniCount] using done

end FlightStack.Proofs
