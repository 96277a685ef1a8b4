import FlightStack.Proofs.FilterClock

/-! What the backward propagation makes of the points of a scan. It goes from the last
point to the first and stays at the first one, so every segment of the trajectory that is
left acts on that point again. -/

namespace FlightStack.Proofs
open LaserMapping ImuProcess
variable {α φ : Type} [Arithmetic α] {imuState : StateIkfom α} {segs : List (Pose6D α × Pose6D α)}
  {points rest done : List (PointXYZINormal α)} {first : PointXYZINormal α} {pair : Pose6D α × Pose6D α}

/-- A point comes after the beginning of a segment. -/
def Behind (pair : Pose6D α × Pose6D α) (point : PointXYZINormal α) : Prop := pair.1.offsetTime < point.curvature / 1000

instance (pair : Pose6D α × Pose6D α) (point : PointXYZINormal α) : Decidable (Behind pair point) :=
  inferInstanceAs (Decidable (_ < _))

def compensateBy (imuState : StateIkfom α) (point : PointXYZINormal α) (pair : Pose6D α × Pose6D α) : PointXYZINormal α :=
  compensate imuState pair.1 pair.2 point

/-- A point that is brought to the end of the scan from the segment it lies in -/
def compensatedOnce (imuState : StateIkfom α) (segs : List (Pose6D α × Pose6D α)) (point : PointXYZINormal α) :
    PointXYZINormal α :=
  (segs.find? fun pair => Behind pair point).elim point (compensateBy imuState point)

/-- A point that is brought there from each of the segments that it comes after the
beginning of -/
def compensatedOften (imuState : StateIkfom α) (segs : List (Pose6D α × Pose6D α)) (point : PointXYZINormal α) :
    PointXYZINormal α :=
  (segs.filter fun pair => Behind pair point).foldl (compensateBy imuState) point

abbrev ByTime (points : List (PointXYZINormal α)) : Prop :=
  points.Pairwise fun first second => first.curvature ≤ second.curvature

theorem behind_mono {point later : PointXYZINormal α} (sooner : point.curvature ≤ later.curvature)
    (behind : Behind pair point) : Behind pair later :=
  lt_of_lt_of_le behind (div_le_div_of_nonneg_right sooner (by norm_num))

/-- The points that a segment does not reach are in front of those that it does. -/
theorem filter_behind (sorted : ByTime points) (pair : Pose6D α × Pose6D α) :
    (points.filter fun point => ¬ Behind pair point) ++ (points.filter fun point => Behind pair point) = points := by
  induction points with
  | nil => rfl
  | cons point rest ih =>
    obtain ⟨after, ordered⟩ := List.pairwise_cons.mp sorted
    by_cases behind : Behind pair point
    · have all other (member : other ∈ rest) : Behind pair other := behind_mono (after other member) behind
      have none : (rest.filter fun point => ¬ Behind pair point) = [] :=
        List.filter_eq_nil_iff.mpr fun other member => by simp [all other member]
      have whole : (rest.filter fun point => Behind pair point) = rest :=
        List.filter_eq_self.mpr fun other member => by simp [all other member]
      rw [List.filter_cons_of_neg (by simpa using behind), none, List.filter_cons_of_pos (by simpa using behind), whole]
      rfl
    · rw [List.filter_cons_of_pos (by simpa using behind), List.filter_cons_of_neg (by simpa using behind), List.cons_append,
        ih ordered]

theorem backwardRounds_points (sorted : ByTime (first :: rest)) (done : List (PointXYZINormal α)) :
    backwardRounds imuState pair.1 pair.2 rest.length (first :: rest ++ done) =
      ((rest.filter fun point => ¬ Behind pair point).length,
        (if Behind pair first then compensateBy imuState first pair else first) ::
          (rest.filter fun point => ¬ Behind pair point) ++
          ((rest.filter fun point => Behind pair point).map (compensateBy imuState · pair) ++ done)) := by
  induction rest using List.reverseRecOn generalizing done with
  | nil =>
    rw [backwardRounds]
    simp only [List.length_nil, List.cons_append, List.nil_append, List.getElem?_cons_zero, List.set_cons_zero]
    split
    next behind =>
      have reached : Behind pair first := behind
      simp [reached, compensateBy]
    next before =>
      have unreached : ¬ Behind pair first := before
      simp [unreached]
  | append_singleton init last ih =>
    have inside : (first :: (init ++ [last]) ++ done)[(init ++ [last]).length]? = some last := by simp
    rw [backwardRounds, inside]
    dsimp only
    split
    next behind =>
      have reached : Behind pair last := behind
      have ordered : ByTime (first :: init) := by
        apply List.Pairwise.sublist _ sorted
        simp
      have moved : (first :: (init ++ [last]) ++ done).set (init ++ [last]).length (compensate imuState pair.1 pair.2 last) =
          first :: init ++ (compensateBy imuState last pair :: done) := by
        simp [compensateBy]
      rw [moved, List.length_append, List.length_singleton]
      dsimp only
      rw [ih ordered]
      simp [List.filter_append, reached]
    next before =>
      have unreached : ¬ Behind pair last := before
      obtain ⟨after, ordered⟩ := List.pairwise_cons.mp sorted
      have sooner := (List.pairwise_append.mp ordered).2.2
      have atFirst : ¬ Behind pair first := fun behind => unreached (behind_mono (after last (by simp)) behind)
      have all point (member : point ∈ init ++ [last]) : ¬ Behind pair point := by
        rcases List.mem_append.mp member with among | final
        · exact fun behind => unreached (behind_mono (sooner point among last (by simp)) behind)
        · rwa [List.mem_singleton.mp final]
      have whole : ((init ++ [last]).filter fun point => ¬ Behind pair point) = init ++ [last] :=
        List.filter_eq_self.mpr fun point member => by simp [all point member]
      have none : ((init ++ [last]).filter fun point => Behind pair point) = [] :=
        List.filter_eq_nil_iff.mpr fun point member => by simp [all point member]
      rw [whole, none, if_neg atFirst]
      rfl

theorem compensatedOften_cons : compensatedOften imuState (pair :: segs) first =
    compensatedOften imuState segs (if Behind pair first then compensateBy imuState first pair else first) := by
  by_cases behind : Behind pair first
  · rw [if_pos behind, compensatedOften, List.filter_cons_of_pos (by simpa using behind)]
    rfl
  · rw [if_neg behind, compensatedOften, List.filter_cons_of_neg (by simpa using behind)]
    rfl

theorem compensatedOnce_cons (sorted : ByTime rest) : rest.map (compensatedOnce imuState (pair :: segs)) =
    (rest.filter fun point => ¬ Behind pair point).map (compensatedOnce imuState segs) ++
      (rest.filter fun point => Behind pair point).map (compensateBy imuState · pair) := by
  conv_lhs => rw [← filter_behind sorted pair, List.map_append]
  congr 1
  · apply List.map_congr_left
    intro point member
    have before : ¬ Behind pair point := by simpa using (List.mem_filter.mp member).2
    simp [compensatedOnce, before]
  · apply List.map_congr_left
    intro point member
    have behind : Behind pair point := by simpa using (List.mem_filter.mp member).2
    simp [compensatedOnce, behind]

/-- The outer loop from some point on -/
theorem segments_points (imuState : StateIkfom α) (segs : List (Pose6D α × Pose6D α)) (sorted : ByTime (first :: rest))
    (done : List (PointXYZINormal α)) :
    (segs.foldl (fun reached pair => backwardRounds imuState pair.1 pair.2 reached.1 reached.2)
      (rest.length, first :: rest ++ done)).2 =
        compensatedOften imuState segs first :: rest.map (compensatedOnce imuState segs) ++ done := by
  induction segs generalizing first rest done with
  | nil =>
    have same : compensatedOnce imuState [] = id := rfl
    rw [same, List.map_id]
    rfl
  | cons pair segs ih =>
    rw [List.foldl_cons, backwardRounds_points sorted]
    have keeps : ByTime ((if Behind pair first then compensateBy imuState first pair else first) ::
        rest.filter fun point => ¬ Behind pair point) := by
      have time : (if Behind pair first then compensateBy imuState first pair else first).curvature = first.curvature := by
        split <;> rfl
      obtain ⟨after, ordered⟩ := List.pairwise_cons.mp sorted
      apply List.pairwise_cons.mpr
      refine ⟨fun point member => ?_, ordered.filter _⟩
      rw [time]
      exact after point (List.mem_of_mem_filter member)
    rw [ih keeps, compensatedOften_cons, compensatedOnce_cons (List.pairwise_cons.mp sorted).2]
    simp only [List.cons_append, List.append_assoc]

/-- The first point is compensated from every segment that begins before it, every other
one only from the segment it lies in. -/
theorem backward_points (imuPose : List (Pose6D α)) (sorted : ByTime (first :: rest)) :
    backward imuState imuPose (first :: rest) =
      compensatedOften imuState (segments imuPose) first :: rest.map (compensatedOnce imuState (segments imuPose)) := by
  have all := segments_points imuState (segments imuPose) sorted []
  rw [List.append_nil, List.append_nil] at all
  exact all

theorem backward_nil (imuState : StateIkfom α) (imuPose : List (Pose6D α)) : backward imuState imuPose [] = [] := by
  rw [backward]
  generalize segments imuPose = segs
  induction segs with
  | nil => rfl
  | cons pair segs ih =>
    rw [List.foldl_cons, backwardRounds]
    exact ih

theorem process_scan {filter : Esekf α φ} {time : TimeSort α} {proc : ImuProcess α} {meas : MeasureGroup α} {kf : φ}
    {scan : List (PointXYZINormal α)} (made : (process filter time meas proc kf).curPclUn = some scan) :
    meas.imu ≠ [] ∧ proc.imuNeedInit = false ∧ scan = backward (filter.getX (process filter time meas proc kf).kf)
      (process filter time meas proc kf).proc.imuPose (time.sort meas.lidar) := by
  revert made
  fun_cases process filter time meas proc kf with
  | case1 | case2 | case3 =>
    intro made
    cases made
  | case4 first rest samples started =>
    intro made
    exact ⟨by simp [samples], Bool.eq_false_iff.mpr started, (Option.some.inj made).symm⟩

variable {params : Parameters α φ} {pImu : ImuProcess α} {kf : φ} {node : LaserMapping α φ}
  {history : List (Entry (LaserMapping α φ) (Event α) (Output α))}

def scanOf : Output α → Option (List (PointXYZINormal α))
  | .undistorted scan => some scan
  | _ => none

/-- The scans that the map was worked on with -/
def undistortedIn (history : List (Entry (LaserMapping α φ) (Event α) (Output α))) : List (List (PointXYZINormal α)) :=
  (history.flatMap Entry.outputs).filterMap scanOf

theorem useMeasures_scan (params : Parameters α φ) {next : LaserMapping α φ} (later : next.flgFirstScan = false) :
    (next.useMeasures params).1.featsUndistort =
      (process params.filter params.time next.measures next.pImu next.kf).curPclUn.getD next.featsUndistort ∧
    (next.useMeasures params).2.filterMap scanOf = if (next.useMeasures params).1.featsUndistort = [] then []
      else [(next.useMeasures params).1.featsUndistort] := by
  have quiet (times : List α) : (times.map Output.predicted).filterMap scanOf = [] := by
    simp [List.filterMap_map, scanOf, Function.comp_def]
  rw [useMeasures, if_neg (Bool.eq_false_iff.mp later)]
  dsimp only
  split
  next empty =>
    rw [quiet, if_pos (List.isEmpty_iff.mp empty)]
    exact ⟨rfl, rfl⟩
  next some =>
    rw [List.filterMap_append, quiet, if_neg fun none => some (List.isEmpty_iff.mpr none)]
    exact ⟨rfl, rfl⟩

/-- The scan that the node keeps is the last one that the map was worked on with. -/
structure ScanHeld (history : List (Entry (LaserMapping α φ) (Event α) (Output α))) (node : LaserMapping α φ) : Prop where
  started : node.featsUndistort ≠ [] → node.pImu.imuNeedInit = false
  last : node.featsUndistort ≠ [] → (undistortedIn history).getLast? = some node.featsUndistort

/-- What a step works on the map with. Without samples it is the scan of an earlier
measure again. -/
structure Reworked (params : Parameters α φ) (history : List (Entry (LaserMapping α φ) (Event α) (Output α)))
    (proc : ImuProcess α) (kf : φ) (meas : MeasureGroup α) (scan : List (PointXYZINormal α)) : Prop where
  again : meas.imu = [] → (undistortedIn history).getLast? = some scan
  fresh : meas.imu ≠ [] → ∃ first rest, params.time.sort meas.lidar = first :: rest ∧
    let processed := process params.filter params.time meas proc kf
    let imuState := params.filter.getX processed.kf
    scan = compensatedOften imuState (segments processed.proc.imuPose) first ::
      rest.map (compensatedOnce imuState (segments processed.proc.imuPose))

theorem fresh_reworked {proc : ImuProcess α} {meas : MeasureGroup α} {scan : List (PointXYZINormal α)}
    (made : (process params.filter params.time meas proc kf).curPclUn = some scan) (some : scan ≠ []) :
    Reworked params history proc kf meas scan := by
  obtain ⟨samples, _, same⟩ := process_scan made
  refine ⟨fun none => absurd none samples, fun _ => ?_⟩
  rcases sort : params.time.sort meas.lidar with _ | ⟨first, rest⟩
  · rw [sort, backward_nil] at same
    exact absurd same some
  · have sorted : ByTime (first :: rest) := sort ▸ params.time.sorted meas.lidar
    exact ⟨first, rest, rfl, by rw [same, sort, backward_points _ sorted]⟩

theorem useMeasures_reworked (params : Parameters α φ) {next : LaserMapping α φ} (held : ScanHeld history next) :
    ((next.useMeasures params).1.featsUndistort ≠ [] → (next.useMeasures params).1.pImu.imuNeedInit = false) ∧
      ((next.useMeasures params).1.featsUndistort ≠ [] →
        (undistortedIn history ++ (next.useMeasures params).2.filterMap scanOf).getLast? =
          some (next.useMeasures params).1.featsUndistort) ∧
      ∀ scan ∈ (next.useMeasures params).2.filterMap scanOf, Reworked params history next.pImu next.kf next.measures scan := by
  obtain ⟨going, last⟩ := held
  cases first : next.flgFirstScan with
  | true =>
    rw [useMeasures, if_pos first]
    simp only [List.filterMap_nil, List.append_nil, List.not_mem_nil, false_imp_iff, implies_true, and_true]
    exact ⟨going, last⟩
  | false =>
    obtain ⟨kept, told⟩ := useMeasures_scan params first
    have latest (scanned : (next.useMeasures params).1.featsUndistort ≠ []) :
        (undistortedIn history ++ (next.useMeasures params).2.filterMap scanOf).getLast? =
          some (next.useMeasures params).1.featsUndistort := by
      rw [told, if_neg scanned, List.getLast?_concat]
    have only scan (member : scan ∈ (next.useMeasures params).2.filterMap scanOf) :
        scan = (next.useMeasures params).1.featsUndistort ∧ scan ≠ [] := by
      rw [told] at member
      split at member
      next => cases member
      next scanned =>
        obtain rfl := List.mem_singleton.mp member
        exact ⟨rfl, scanned⟩
    cases made : (process params.filter params.time next.measures next.pImu next.kf).curPclUn with
    | none =>
      rw [made, Option.getD_none] at kept
      refine ⟨fun scanned => useMeasures_going (going (kept ▸ scanned)), latest, fun scan member => ?_⟩
      obtain ⟨rfl, scanned⟩ := only scan member
      rw [kept] at scanned ⊢
      refine ⟨fun _ => last scanned, fun samples => ?_⟩
      obtain ⟨first, rest, same⟩ := List.exists_cons_of_ne_nil samples
      simp [process, same, going scanned, undistortPcl] at made
    | some scan =>
      rw [made, Option.getD_some] at kept
      refine ⟨fun _ => useMeasures_going (process_scan made).2.1, latest, fun other member => ?_⟩
      obtain ⟨rfl, scanned⟩ := only other member
      rw [kept] at scanned ⊢
      exact fresh_reworked made scanned

theorem scanHeld_snoc {after : LaserMapping α φ} {event : Event α} {outputs : List (Output α)}
    (held : ScanHeld history node) (turned : Turned params node event after outputs) :
    ScanHeld (history ++ [⟨node, event, outputs, after⟩]) after ∧ ∀ scan ∈ outputs.filterMap scanOf,
      ∃ meas, .measured meas ∈ outputs ∧ Reworked params history node.pImu node.kf meas scan := by
  obtain ⟨going, last⟩ := held
  have scans : undistortedIn (history ++ [⟨node, event, outputs, after⟩]) = undistortedIn history ++ outputs.filterMap scanOf := by
    simp [undistortedIn]
  have kept (silent : outputs.filterMap scanOf = []) (same : after.pImu.imuNeedInit = node.pImu.imuNeedInit)
      (stays : after.featsUndistort = node.featsUndistort) : ScanHeld (history ++ [⟨node, event, outputs, after⟩]) after ∧
        ∀ scan ∈ outputs.filterMap scanOf,
          ∃ meas, .measured meas ∈ outputs ∧ Reworked params history node.pImu node.kf meas scan := by
    rw [silent] at scans ⊢
    refine ⟨⟨?_, ?_⟩, by simp⟩
    · rwa [stays, same]
    · rwa [stays, scans, List.append_nil]
  cases turned with
  | scan | imu | idle => exact kept rfl rfl rfl
  | @waits scan _ begTime =>
    obtain ⟨_, _, _, _, same⟩ := started_eq node scan begTime
    exact kept rfl (by rw [same]) (by rw [same])
  | @measured scan scansLeft begTime timesLeft imu samples =>
    obtain ⟨_, _, _, _, same⟩ := started_eq node scan begTime
    have next : ScanHeld history (withMeasure (started node scan begTime) scansLeft timesLeft imu samples) := by
      rw [same]
      exact ⟨going, last⟩
    have parts : (withMeasure (started node scan begTime) scansLeft timesLeft imu samples).pImu = node.pImu ∧
        (withMeasure (started node scan begTime) scansLeft timesLeft imu samples).kf = node.kf := by
      rw [same]
      exact ⟨rfl, rfl⟩
    obtain ⟨onward, latest, reworked⟩ := useMeasures_reworked params next
    rw [parts.1, parts.2] at reworked
    rw [List.filterMap_cons_none rfl] at scans ⊢
    refine ⟨⟨onward, ?_⟩, fun scan member => ⟨_, List.mem_cons_self, reworked scan member⟩⟩
    rwa [scans]

/-- The map is worked on with the points of each scan in the order of their times. All
but the first are compensated once, from the segment of the trajectory that they lie in,
and the first from every segment that begins before it. For a measure without samples
the last scan before is used again. -/
theorem scans_undistorted {past future : List (Entry (LaserMapping α φ) (Event α) (Output α))}
    {entry : Entry (LaserMapping α φ) (Event α) (Output α)} {scan : List (PointXYZINormal α)}
    (run : (laserMapping params pImu kf).Run (past ++ entry :: future) node)
    (undistorted : .undistorted scan ∈ entry.outputs) :
    ∃ meas, .measured meas ∈ entry.outputs ∧ Reworked params past entry.before.pImu entry.before.kf meas scan := by
  have held {history : List (Entry (LaserMapping α φ) (Event α) (Output α))} {node : LaserMapping α φ}
      (run : (laserMapping params pImu kf).Run history node) : ScanHeld history node := by
    induction run with
    | refl => exact ⟨fun scanned => absurd rfl scanned, fun scanned => absurd rfl scanned⟩
    | snoc _ taken ih => exact (scanHeld_snoc ih (turned_of_step taken)).1
  obtain ⟨earlier, taken, _⟩ := run.entry
  apply (scanHeld_snoc (held earlier) (turned_of_step taken)).2
  exact List.mem_filterMap.mpr ⟨_, undistorted, rfl⟩

theorem useMeasures_keeps {next : LaserMapping α φ} (later : next.flgFirstScan = false) (none : next.measures.imu = []) :
    (next.useMeasures params).1.featsUndistort = next.featsUndistort := by
  rw [(useMeasures_scan params later).1]
  simp [process, none]

theorem useMeasures_scanned {next : LaserMapping α φ} (later : next.flgFirstScan = false)
    (started : next.pImu.imuNeedInit = false) (samples : next.measures.imu ≠ []) (points : next.measures.lidar ≠ []) :
    (next.useMeasures params).1.featsUndistort ≠ [] := by
  obtain ⟨first, rest, same⟩ := List.exists_cons_of_ne_nil samples
  have whole : params.time.sort next.measures.lidar ≠ [] := by
    intro none
    exact points (List.perm_nil.mp (none ▸ (params.time.perm next.measures.lidar).symm))
  obtain ⟨point, others, sort⟩ := List.exists_cons_of_ne_nil whole
  have sorted : ByTime (point :: others) := sort ▸ params.time.sorted next.measures.lidar
  rw [(useMeasures_scan params later).1]
  simp [process, same, started, undistortPcl, sort, backward_points _ sorted]

theorem useMeasures_tells {next : LaserMapping α φ} (later : next.flgFirstScan = false)
    (scanned : (next.useMeasures params).1.featsUndistort ≠ []) :
    .undistorted (next.useMeasures params).1.featsUndistort ∈ (next.useMeasures params).2 := by
  have told : (next.useMeasures params).1.featsUndistort ∈ (next.useMeasures params).2.filterMap scanOf := by
    rw [(useMeasures_scan params later).2, if_neg scanned]
    exact List.mem_singleton_self _
  obtain ⟨output, member, same⟩ := List.mem_filterMap.mp told
  cases output with
  | undistorted => exact Option.some.inj same ▸ member
  | measured | predicted => cases same

theorem useMeasures_unmeasured {next : LaserMapping α φ} {meas : MeasureGroup α} :
    .measured meas ∉ (next.useMeasures params).2 := by
  intro told
  have alone : (.measured meas :: (next.useMeasures params).2).filterMap measureOf = [meas] := measured_alone meas next
  have first : measureOf (.measured meas) = some meas := rfl
  rw [List.filterMap_cons_some first] at alone
  cases List.filterMap_eq_nil_iff.mp (List.cons.inj alone).2 _ told

/-- The second measure has one sample and the third one none. -/
theorem again_run : ∃ past fresh between again node,
    (laserMapping stillNode startedProcess ()).Run (past ++ fresh :: between ++ [again]) node ∧
      fresh.before.pImu = startedProcess ∧ .undistorted fresh.after.featsUndistort ∈ fresh.outputs ∧
      (∀ meas, .measured meas ∈ fresh.outputs → meas = ⟨1, 1 + 100 / 1000, tenthScan, [⟨1, 0, 0⟩]⟩) ∧
      .undistorted again.after.featsUndistort ∈ again.outputs ∧ ∀ meas, .measured meas ∈ again.outputs → meas.imu = [] := by
  have recorded : (laserMapping stillNode startedProcess ()).record (laserMapping stillNode startedProcess ()).initial
    [.imuCbk ⟨0, 0, 0⟩, .imuCbk ⟨1, 0, 0⟩, .standardPclCbk 0 tenthScan, .timerCallback, .imuCbk ⟨2, 0, 0⟩,
      .standardPclCbk 1 tenthScan, .timerCallback, .standardPclCbk (1.5) tenthScan, .timerCallback] = some (_, _) := rfl
  have long : ¬ (100 : ℝ) / 1000 < 0 := by norm_num
  have covered : ¬ (1 : ℝ) < 100 / 1000 := by norm_num
  have before : (0 : ℝ) < 100 / 1000 := by norm_num
  have beyond : (100 : ℝ) / 1000 < 1 := by norm_num
  have later : ¬ (1 : ℝ) < 0 := by norm_num
  have kept : ¬ (2 : ℝ) < 1 := by norm_num
  have half : ¬ (100 : ℝ) / 1000 < 0.5 * (100 / 1000) := by norm_num
  have second : ¬ (2 : ℝ) < 1 + 100 / 1000 := by norm_num
  have inside : (1 : ℝ) < 1 + 100 / 1000 := by norm_num
  have outside : (1 : ℝ) + 100 / 1000 < 2 := by norm_num
  have third : ¬ (2 : ℝ) < 1.5 + 100 / 1000 := by norm_num
  refine ⟨[_, _, _, _, _, _], _, [_], _, _, Machine.path_of_record recorded, ?_, ?_, ?_, ?_, ?_⟩
  all_goals simp [kept, half, second, inside, outside, long, covered, before, beyond, later, third, useMeasures_first,
    imuStamp_stillNode, tenthScan, lastOffset, laserMapping, LaserMapping.timerCallback, syncPackages,
    LaserMapping.standardPclCbk, LaserMapping.imuCbk, loopBackLidar, pushLidar, takeUp, popImu]
  · rfl
  · apply useMeasures_tells
    · rfl
    · exact useMeasures_scanned rfl rfl (by simp) (by simp)
  · exact fun meas told => absurd told useMeasures_unmeasured
  · apply useMeasures_tells
    · exact useMeasures_flgFirstScan _
    · rw [useMeasures_keeps]
      · exact useMeasures_scanned rfl rfl (by simp) (by simp)
      · exact useMeasures_flgFirstScan _
      · rfl
  · exact fun meas told => absurd told useMeasures_unmeasured

/-- Its trajectory has one segment, which begins with the scan. -/
theorem started_segments (kf : Unit) : ∃ pair, pair.1.offsetTime = 0 ∧
    segments (process stillNode.filter stillNode.time ⟨1, 1 + 100 / 1000, tenthScan, [⟨1, 0, 0⟩]⟩ startedProcess
      kf).proc.imuPose = [pair] := by
  have later : ¬ (1 : ℝ) < 0 := by norm_num
  simp [process, startedProcess, undistortPcl, forward, forwardRound, stillProcess, segments, later]

theorem byTime_tenthScan : byTime.sort tenthScan = tenthScan := by
  simp [byTime, tenthScan, Preprocess.unset]

theorem scans_undistorted_again : ∃ past fresh between again node first pair,
    (laserMapping stillNode startedProcess ()).Run (past ++ fresh :: between ++ [again]) node ∧
      .undistorted [first, compensateBy (stillFilter.getX ()) { Preprocess.unset with curvature := 100 } pair] ∈
        fresh.outputs ∧
      .undistorted again.after.featsUndistort ∈ again.outputs ∧
      (undistortedIn (past ++ fresh :: between)).getLast? = some again.after.featsUndistort := by
  obtain ⟨past, fresh, between, again, node, run, started, told, only, repeated, none⟩ := again_run
  obtain ⟨pair, begins, segs⟩ := started_segments fresh.before.kf
  have whole : past ++ fresh :: between ++ [again] = past ++ fresh :: (between ++ [again]) := by simp
  obtain ⟨meas, measured, reworked⟩ := scans_undistorted (whole ▸ run) told
  obtain rfl := only meas measured
  obtain ⟨first, rest, sorted, scan⟩ := reworked.fresh (List.cons_ne_nil _ _)
  obtain ⟨rfl, rfl⟩ := List.cons.inj (byTime_tenthScan.symm.trans sorted)
  have behind : Behind pair { Preprocess.unset with curvature := 100 } := by
    rw [Behind, begins]
    norm_num
  have moved : fresh.after.featsUndistort = [compensatedOften (stillFilter.getX ()) [pair] Preprocess.unset,
      compensateBy (stillFilter.getX ()) { Preprocess.unset with curvature := 100 } pair] := by
    rw [scan, started]
    change compensatedOften _ (segments _) _ :: [compensatedOnce _ (segments _) _] = _
    rw [segs, compensatedOnce, List.find?_cons_of_pos (by simpa using behind)]
    rfl
  obtain ⟨next, silent, repeats⟩ := scans_undistorted run repeated
  exact ⟨past, fresh, between, again, node, _, pair, run, moved ▸ told, repeated, repeats.again (none next silent)⟩

end FlightStack.Proofs
