import FlightStack.Proofs.ImuPartition

/-! The filter is carried on from the end of one scan to the end of the next: the times
it predicts over are never negative and leave no gap. -/

namespace FlightStack.Proofs
open LaserMapping ImuProcess
variable {α φ : Type}

theorem last_mem {first : Imu α} {rest : List (Imu α)} {meas : MeasureGroup α} (some : meas.imu = first :: rest) :
    rest.getLastD first ∈ meas.imu := by
  rw [some, ← List.getLast_eq_getLastD (List.cons_ne_nil first rest)]
  exact List.getLast_mem _

def predictionOf : Output α → Option α
  | .predicted dt => some dt
  | _ => none

/-- The times that the filter predicts over -/
def predictedIn (history : List (Entry (LaserMapping α φ) (Event α) (Output α))) : List α :=
  (history.flatMap Entry.outputs).filterMap predictionOf

theorem predictedIn_snoc (history : List (Entry (LaserMapping α φ) (Event α) (Output α)))
    (entry : Entry (LaserMapping α φ) (Event α) (Output α)) :
    predictedIn (history ++ [entry]) = predictedIn history ++ entry.outputs.filterMap predictionOf := by
  simp [predictedIn]

variable [Arithmetic α]

/-- The time that the filter has been carried to -/
def clock (proc : ImuProcess α) : α := max proc.lastImu.stamp proc.lastLidarEndTime

/-- The times between samples that follow on each other, from a beginning on -/
def timesBetween (begTime : α) : Imu α → List (Imu α) → List α
  | _, [] => []
  | head, tail :: rest => (tail.stamp - max head.stamp begTime) :: timesBetween begTime tail rest

theorem forwardRound_predicted {filter : Esekf α φ} {proc : ImuProcess α} {pclBegTime : α} {loop : Forward α φ}
    {head tail : Imu α} (later : proc.lastLidarEndTime ≤ tail.stamp) :
    (forwardRound filter proc pclBegTime loop (head, tail)).predicted =
      loop.predicted ++ [tail.stamp - max head.stamp proc.lastLidarEndTime] := by
  rw [forwardRound, if_neg (not_lt.mpr later)]
  dsimp only
  split
  next before => rw [max_eq_right before.le]
  next after => rw [max_eq_left (not_lt.mp after)]

theorem forwardRounds_predicted {filter : Esekf α φ} {proc : ImuProcess α} {pclBegTime : α} {loop : Forward α φ}
    {head : Imu α} {samples : List (Imu α)} (later : ∀ imu ∈ samples, proc.lastLidarEndTime ≤ imu.stamp) :
    (((head :: samples).zip samples).foldl (forwardRound filter proc pclBegTime) loop).predicted =
      loop.predicted ++ timesBetween proc.lastLidarEndTime head samples := by
  induction samples generalizing head loop with
  | nil => simp [timesBetween]
  | cons tail rest ih =>
    rw [List.forall_mem_cons] at later
    rw [List.zip_cons_cons, List.foldl_cons, ih later.2, forwardRound_predicted later.1, timesBetween, List.append_assoc]
    rfl

theorem timesBetween_sum {begTime : α} {head : Imu α} {samples : List (Imu α)}
    (later : ∀ imu ∈ samples, begTime ≤ imu.stamp) : (timesBetween begTime head samples).sum =
      max (samples.getLastD head).stamp begTime - max head.stamp begTime := by
  induction samples generalizing head with
  | nil => simp [timesBetween]
  | cons tail rest ih =>
    rw [List.forall_mem_cons] at later
    rw [timesBetween, List.sum_cons, ih later.2, List.getLastD_cons, max_eq_left later.1]
    ring

theorem timesBetween_nonneg {begTime : α} {head : Imu α} {samples : List (Imu α)}
    (later : ∀ imu ∈ samples, begTime ≤ imu.stamp)
    (sorted : (head :: samples).Pairwise fun first second => first.stamp ≤ second.stamp) :
    ∀ dt ∈ timesBetween begTime head samples, 0 ≤ dt := by
  induction samples generalizing head with
  | nil => simp [timesBetween]
  | cons tail rest ih =>
    rw [List.forall_mem_cons] at later
    have ordered := List.pairwise_cons.mp sorted
    rw [timesBetween, List.forall_mem_cons]
    exact ⟨sub_nonneg.mpr (max_le (ordered.1 tail List.mem_cons_self) later.1), ih later.2 ordered.2⟩

/-- What a measure must be for the filter to be carried on by it -/
structure Continues (proc : ImuProcess α) (meas : MeasureGroup α) : Prop where
  sorted : meas.imu.Pairwise fun first second => first.stamp ≤ second.stamp
  after : ∀ imu ∈ meas.imu, clock proc ≤ imu.stamp
  until_ : ∀ imu ∈ meas.imu, imu.stamp ≤ meas.lidarEndTime

theorem undistortPcl_clock (filter : Esekf α φ) (time : TimeSort α) {proc : ImuProcess α} {meas : MeasureGroup α}
    {first : Imu α} {rest : List (Imu α)} (kf : φ) (some : meas.imu = first :: rest) (continues : Continues proc meas) :
    let processed := undistortPcl filter time meas (rest.getLastD first) proc kf
    (∀ dt ∈ processed.predicted, 0 ≤ dt) ∧ clock proc + processed.predicted.sum = meas.lidarEndTime := by
  obtain ⟨sorted, after, until_⟩ := continues
  have last := last_mem some
  have later imu (member : imu ∈ meas.imu) : proc.lastLidarEndTime ≤ imu.stamp := (le_max_right ..).trans (after imu member)
  have ordered : (proc.lastImu :: meas.imu).Pairwise fun first second => first.stamp ≤ second.stamp :=
    List.pairwise_cons.mpr ⟨fun imu member => (le_max_left ..).trans (after imu member), sorted⟩
  have finalTime : (if (rest.getLastD first).stamp < meas.lidarEndTime then (1 : α) else -1) *
      (meas.lidarEndTime - (rest.getLastD first).stamp) = meas.lidarEndTime - (rest.getLastD first).stamp := by
    split
    next => rw [one_mul]
    next reached => rw [le_antisymm (until_ _ last) (not_lt.mp reached), sub_self, mul_zero]
  have predicted : (undistortPcl filter time meas (rest.getLastD first) proc kf).predicted =
      timesBetween proc.lastLidarEndTime proc.lastImu meas.imu ++ [meas.lidarEndTime - (rest.getLastD first).stamp] := by
    rw [undistortPcl, finalTime, forward]
    dsimp only
    rw [forwardRounds_predicted later, List.nil_append]
  constructor
  · rw [predicted, List.forall_mem_append]
    exact ⟨timesBetween_nonneg later ordered, List.forall_mem_singleton.mpr (sub_nonneg.mpr (until_ _ last))⟩
  · have same : meas.imu.getLastD proc.lastImu = rest.getLastD first := by rw [some, List.getLastD_cons]
    rw [predicted, List.sum_append, List.sum_singleton, timesBetween_sum later, same, max_eq_left (later _ last), clock]
    ring

/-- A measure that the filter is carried on by carries it to its end. -/
theorem process_reaches {filter : Esekf α φ} {time : TimeSort α} {proc : ImuProcess α} {meas : MeasureGroup α} {kf : φ}
    (until_ : ∀ imu ∈ meas.imu, imu.stamp ≤ meas.lidarEndTime) (some : (process filter time meas proc kf).predicted ≠ []) :
    (process filter time meas proc kf).proc.imuNeedInit = false ∧
      clock (process filter time meas proc kf).proc = meas.lidarEndTime := by
  revert some
  fun_cases process filter time meas proc kf with
  | case1 | case2 | case3 => exact fun some => absurd rfl some
  | case4 first rest samples started =>
    intro _
    exact ⟨Bool.eq_false_iff.mpr started, max_eq_right (until_ _ (last_mem samples))⟩

theorem process_clock {filter : Esekf α φ} {time : TimeSort α} {proc : ImuProcess α} {meas : MeasureGroup α} {kf : φ}
    (started : proc.imuNeedInit = false) (continues : Continues proc meas) :
    let processed := process filter time meas proc kf
    (∀ dt ∈ processed.predicted, 0 ≤ dt) ∧ processed.proc.imuNeedInit = false ∧
      clock processed.proc = clock proc + processed.predicted.sum ∧
      (clock processed.proc = clock proc ∨ clock processed.proc = meas.lidarEndTime) := by
  rcases samples : meas.imu with _ | ⟨first, rest⟩
  · simp [process, samples, started]
  · have same : process filter time meas proc kf = undistortPcl filter time meas (rest.getLastD first) proc kf := by
      simp [process, samples, started]
    have some : (process filter time meas proc kf).predicted ≠ [] := by simp [same, undistortPcl]
    obtain ⟨going, reached⟩ := process_reaches continues.until_ some
    obtain ⟨forward, sum⟩ := undistortPcl_clock filter time kf samples continues
    dsimp only
    exact ⟨same ▸ forward, going, by rw [reached, same, sum], .inr reached⟩

variable {params : Parameters α φ}

theorem useMeasures_predicted (node : LaserMapping α φ) :
    (node.useMeasures params).2.filterMap predictionOf = if node.flgFirstScan then []
      else (process params.filter params.time node.measures node.pImu node.kf).predicted := by
  have all (times : List α) : (times.map Output.predicted).filterMap predictionOf = times := by
    simp [List.filterMap_map, predictionOf, Function.comp_def]
  rw [useMeasures]
  split
  next => rfl
  next =>
    dsimp only
    split
    next => exact all _
    next => simp [all, predictionOf]

theorem useMeasures_carried {next : LaserMapping α φ} (started : next.pImu.imuNeedInit = false)
    (continues : Continues next.pImu next.measures) :
    (∀ dt ∈ (next.useMeasures params).2.filterMap predictionOf, 0 ≤ dt) ∧
      (next.useMeasures params).1.pImu.imuNeedInit = false ∧
      clock (next.useMeasures params).1.pImu = clock next.pImu + ((next.useMeasures params).2.filterMap predictionOf).sum ∧
      (clock (next.useMeasures params).1.pImu = clock next.pImu ∨
        clock (next.useMeasures params).1.pImu = next.measures.lidarEndTime) := by
  rw [useMeasures_predicted, useMeasures_pImu]
  split
  next => exact ⟨by simp, started, by rw [List.sum_nil, add_zero]; rfl, .inl rfl⟩
  next => exact process_clock started continues

theorem useMeasures_reaches {next : LaserMapping α φ}
    (until_ : ∀ imu ∈ next.measures.imu, imu.stamp ≤ next.measures.lidarEndTime)
    (some : (next.useMeasures params).2.filterMap predictionOf ≠ []) :
    (next.useMeasures params).1.pImu.imuNeedInit = false ∧
      clock (next.useMeasures params).1.pImu = next.measures.lidarEndTime := by
  rw [useMeasures_predicted] at some
  rw [useMeasures_pImu]
  split at some
  next => exact absurd rfl some
  next later =>
    rw [if_neg later]
    exact process_reaches until_ some

theorem process_going {filter : Esekf α φ} {time : TimeSort α} {proc : ImuProcess α} {meas : MeasureGroup α} {kf : φ}
    (started : proc.imuNeedInit = false) : (process filter time meas proc kf).proc.imuNeedInit = false := by
  rcases samples : meas.imu with _ | ⟨first, rest⟩
  · simp [process, samples, started]
  · simp [process, samples, started, undistortPcl]

theorem useMeasures_flgFirstScan (next : LaserMapping α φ) : (next.useMeasures params).1.flgFirstScan = false := by
  rw [useMeasures]
  split
  next => rfl
  next later =>
    dsimp only
    split
    all_goals exact Bool.eq_false_iff.mpr later

theorem useMeasures_going {next : LaserMapping α φ} (started : next.pImu.imuNeedInit = false) :
    (next.useMeasures params).1.pImu.imuNeedInit = false := by
  rw [useMeasures_pImu]
  split
  next => exact started
  next => exact process_going started

theorem useMeasures_predicts {next : LaserMapping α φ} (later : next.flgFirstScan = false)
    (started : next.pImu.imuNeedInit = false) (some : next.measures.imu ≠ []) :
    ∃ dt, .predicted dt ∈ (next.useMeasures params).2 := by
  obtain ⟨first, rest, samples⟩ := List.exists_cons_of_ne_nil some
  have predicts : (next.useMeasures params).2.filterMap predictionOf ≠ [] := by
    simp [useMeasures_predicted, later, process, samples, started, undistortPcl]
  obtain ⟨dt, member⟩ := List.exists_mem_of_ne_nil _ predicts
  obtain ⟨output, told, same⟩ := List.mem_filterMap.mp member
  cases output with
  | predicted => exact ⟨_, told⟩
  | measured | undistorted => cases same

variable {pImu : ImuProcess α} {kf : φ} {history between : List (Entry (LaserMapping α φ) (Event α) (Output α))}
  {entry : Entry (LaserMapping α φ) (Event α) (Output α)} {node start : LaserMapping α φ} {time : α}

/-- Where the filter is after a measure that it was carried on by -/
structure CarriedOn (history : List (Entry (LaserMapping α φ) (Event α) (Output α))) (node : LaserMapping α φ)
    (time : α) : Prop where
  started : node.pImu.imuNeedInit = false
  clock : clock node.pImu = time
  ends : ∃ meas ∈ measuresIn history, meas.lidarEndTime = time

theorem measure_continues (account : ImuAccount params history node) (carried : CarriedOn history node time)
    (orderly : Orderly params history) {next : LaserMapping α φ} (divided : Divided node next) :
    Continues node.pImu next.measures := by
  obtain ⟨last, member, ended⟩ := carried.ends
  have waiting imu (taken : imu ∈ next.measures.imu) : imu ∈ node.imuBuffer :=
    divided.split ▸ List.mem_append_left _ taken
  refine ⟨account.sorted.sublist ?_, fun imu taken => ?_, divided.until_⟩
  · rw [← divided.split]
    apply List.sublist_append_left
  · rw [carried.clock, ← ended]
    exact (account.ended orderly last member).2 imu (waiting imu taken)

theorem carriedOn_snoc {after : LaserMapping α φ} {event : Event α} {outputs : List (Output α)}
    (account : ImuAccount params history node) (held : EndsHeld history node) (carried : CarriedOn history node time)
    (orderly : Orderly params history) (turned : Turned params node event after outputs) :
    (∀ dt ∈ outputs.filterMap predictionOf, 0 ≤ dt) ∧
      CarriedOn (history ++ [⟨node, event, outputs, after⟩]) after (time + (outputs.filterMap predictionOf).sum) := by
  obtain ⟨last, member, ended⟩ := carried.ends
  have measures := measuresIn_snoc history ⟨node, event, outputs, after⟩
  have earlier : last ∈ measuresIn (history ++ [⟨node, event, outputs, after⟩]) := by
    rw [measures]
    exact List.mem_append_left _ member
  have kept (silent : outputs.filterMap predictionOf = []) (same : after.pImu.imuNeedInit = node.pImu.imuNeedInit)
      (stays : clock after.pImu = clock node.pImu) : (∀ dt ∈ outputs.filterMap predictionOf, 0 ≤ dt) ∧
        CarriedOn (history ++ [⟨node, event, outputs, after⟩]) after (time + (outputs.filterMap predictionOf).sum) := by
    rw [silent, List.sum_nil, add_zero]
    exact ⟨by simp, same.trans carried.started, stays.trans carried.clock, last, earlier, ended⟩
  cases turned with
  | scan | imu | idle => exact kept rfl rfl rfl
  | @waits scan _ begTime =>
    have same := started_pImu node scan begTime
    exact kept rfl (by rw [same]) (by rw [same])
  | @measured scan scansLeft begTime timesLeft imu samples lidar left buffered covered =>
    have divided := withMeasure_divided held scan scansLeft begTime timesLeft buffered covered
    have continues := measure_continues account carried orderly divided
    have same : (withMeasure (started node scan begTime) scansLeft timesLeft imu samples).pImu = node.pImu := started_pImu ..
    rw [← same] at continues
    obtain ⟨forward, going, sum, stays⟩ := useMeasures_carried (same ▸ carried.started) continues
    rw [same, carried.clock] at sum stays
    rw [List.filterMap_cons_none rfl]
    refine ⟨forward, going, sum, ?_⟩
    rcases stays with still | reached
    · exact ⟨last, earlier, by rw [ended, ← sum, still]⟩
    · refine ⟨_, ?_, reached.symm.trans sum⟩
      rw [measures, measured_alone]
      exact List.mem_concat_self

theorem carriedOn_path (earlier : (laserMapping params pImu kf).Run history start)
    (path : (laserMapping params pImu kf).Path start between node) (carried : CarriedOn history start time)
    (orderly : Orderly params (history ++ between)) : (∀ dt ∈ predictedIn between, 0 ≤ dt) ∧
      CarriedOn (history ++ between) node (time + (predictedIn between).sum) := by
  induction path with
  | refl => simpa [predictedIn] using carried
  | @snoc reached after between event outputs through taken ih =>
    rw [← List.append_assoc] at orderly ⊢
    have before : Orderly params (history ++ between) := fun entry member => orderly entry (List.mem_append_left _ member)
    obtain ⟨forward, carried⟩ := ih before
    have run := earlier.append through
    obtain ⟨next, carried⟩ := carriedOn_snoc (run_imuAccount run) (run_ends run) carried before (turned_of_step taken)
    rw [predictedIn_snoc, List.forall_mem_append, List.sum_append, ← add_assoc]
    exact ⟨⟨forward, next⟩, carried⟩

/-- A step carries the filter on by a measure. -/
def Carries (entry : Entry (LaserMapping α φ) (Event α) (Output α)) (meas : MeasureGroup α) : Prop :=
  .measured meas ∈ entry.outputs ∧ ∃ dt, .predicted dt ∈ entry.outputs

theorem carries_reaches {meas : MeasureGroup α} (run : (laserMapping params pImu kf).Run history entry.before)
    (taken : step params entry.before entry.event = some (entry.after, entry.outputs)) (carries : Carries entry meas) :
    CarriedOn (history ++ [entry]) entry.after meas.lidarEndTime := by
  obtain ⟨before, event, outputs, after⟩ := entry
  obtain ⟨told, dt, predicted⟩ := carries
  have turned : Turned params before event after outputs := turned_of_step taken
  cases turned with
  | scan | imu | idle | waits => cases told
  | @measured scan scansLeft begTime timesLeft imu samples lidar left buffered covered =>
    have divided := withMeasure_divided (run_ends run) scan scansLeft begTime timesLeft buffered covered
    have only := mem_measures told
    rw [measured_alone, List.mem_singleton] at only
    subst only
    have some : dt ∈ ((withMeasure (started before scan begTime) scansLeft timesLeft imu samples).useMeasures
        params).2.filterMap predictionOf := by
      apply List.mem_filterMap.mpr
      exact ⟨_, (List.mem_cons.mp predicted).resolve_left (by simp), rfl⟩
    obtain ⟨going, reached⟩ := useMeasures_reaches divided.until_ (List.ne_nil_of_mem some)
    refine ⟨going, reached, _, ?_, rfl⟩
    rw [measuresIn_snoc]
    exact List.mem_append_right _ (mem_measures told)

/-- As long as the stamps of the samples do not go back, the filter predicts from the end
of each measure that it is carried on by to the end of the next one: over times that are
not negative, without a gap and nothing twice. -/
theorem filter_clock {past future : List (Entry (LaserMapping α φ) (Event α) (Output α))}
    {first second : Entry (LaserMapping α φ) (Event α) (Output α)} {meas next : MeasureGroup α}
    (run : (laserMapping params pImu kf).Run (past ++ first :: between ++ second :: future) node)
    (orderly : Orderly params (past ++ first :: between ++ second :: future))
    (carries : Carries first meas) (again : Carries second next) :
    (∀ dt ∈ predictedIn (between ++ [second]), 0 ≤ dt) ∧
      (predictedIn (between ++ [second])).sum = next.lidarEndTime - meas.lidarEndTime := by
  obtain ⟨earlier, taken, through, retaken⟩ := run.between
  have begun := carries_reaches earlier taken carries
  have path := through.snoc retaken
  have until_ : Orderly params (past ++ [first] ++ (between ++ [second])) :=
    fun entry member => orderly entry (by simp at member ⊢; tauto)
  obtain ⟨forward, carried⟩ := carriedOn_path (earlier.snoc taken) path begun until_
  have ended := carries_reaches (earlier.snoc taken |>.append through) retaken again
  refine ⟨forward, ?_⟩
  rw [← ended.clock, carried.clock]
  exact (add_sub_cancel_left ..).symm

/-- A process whose filter has started -/
def startedProcess : ImuProcess ℝ := { stillProcess with bFirstFrame := false, imuNeedInit := false }

theorem carried_run : ∃ past first between second node meas next,
    (laserMapping stillNode startedProcess ()).Run (past ++ first :: between ++ [second]) node ∧
      Orderly stillNode (past ++ first :: between ++ [second]) ∧ Carries first meas ∧ Carries second next ∧
      next.lidarEndTime - meas.lidarEndTime = 1 := by
  have recorded : (laserMapping stillNode startedProcess ()).record (laserMapping stillNode startedProcess ()).initial
    [.imuCbk ⟨0, 0, 0⟩, .imuCbk ⟨1, 0, 0⟩, .standardPclCbk 0 tenthScan, .timerCallback, .imuCbk ⟨2, 0, 0⟩,
      .standardPclCbk 1 tenthScan, .timerCallback, .imuCbk ⟨3, 0, 0⟩, .standardPclCbk 2 tenthScan, .timerCallback] =
        some (_, _) := rfl
  have long : ¬ (100 : ℝ) / 1000 < 0 := by norm_num
  have covered : ¬ (1 : ℝ) < 100 / 1000 := by norm_num
  have before : (0 : ℝ) < 100 / 1000 := by norm_num
  have beyond : (100 : ℝ) / 1000 < 1 := by norm_num
  have later : ¬ (1 : ℝ) < 0 := by norm_num
  have kept : ¬ (2 : ℝ) < 1 := by norm_num
  have last : ¬ (3 : ℝ) < 2 := by norm_num
  have half : ¬ (100 : ℝ) / 1000 < 0.5 * (100 / 1000) := by norm_num
  have second : ¬ (2 : ℝ) < 1 + 100 / 1000 := by norm_num
  have inside : (1 : ℝ) < 1 + 100 / 1000 := by norm_num
  have outside : (1 : ℝ) + 100 / 1000 < 2 := by norm_num
  have third : ¬ (3 : ℝ) < 2 + 100 / 1000 := by norm_num
  have inThird : (2 : ℝ) < 2 + 100 / 1000 := by norm_num
  have outThird : (2 : ℝ) + 100 / 1000 < 3 := by norm_num
  refine ⟨[_, _, _, _, _, _], _, [_, _], _, _, ⟨1, 1 + 100 / 1000, tenthScan, [⟨1, 0, 0⟩]⟩,
    ⟨2, 2 + 100 / 1000, tenthScan, [⟨2, 0, 0⟩]⟩, Machine.path_of_record recorded, ?_, ?_, ?_, by norm_num⟩
  all_goals simp only [Orderly, Carries]
  all_goals simp [imuReceived, kept, half, second, inside, outside, long, covered, before, beyond, later, last, third, inThird,
    outThird, useMeasures_first, imuStamp_stillNode, tenthScan, lastOffset, laserMapping, LaserMapping.timerCallback, syncPackages,
    LaserMapping.standardPclCbk, LaserMapping.imuCbk, loopBackLidar, pushLidar, takeUp, popImu]
  · norm_num
  · exact useMeasures_predicts rfl rfl (by simp)
  · exact useMeasures_predicts (useMeasures_flgFirstScan _) (useMeasures_going rfl) (by simp)

theorem filter_clock_second : ∃ past first between second node,
    (laserMapping stillNode startedProcess ()).Run (past ++ first :: between ++ [second]) node ∧
      (∀ dt ∈ predictedIn (between ++ [second]), 0 ≤ dt) ∧ (predictedIn (between ++ [second])).sum = 1 := by
  obtain ⟨past, first, between, second, node, meas, next, run, orderly, carries, again, apart⟩ := carried_run
  obtain ⟨forward, sum⟩ := filter_clock run orderly carries again
  exact ⟨past, first, between, second, node, run, forward, sum.trans apart⟩

end FlightStack.Proofs
