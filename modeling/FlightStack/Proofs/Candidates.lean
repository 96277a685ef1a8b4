import FlightStack.Library.Averages
import FlightStack.PclContract
import FlightStack.Proofs.Tracking

/-! What makes a cluster a candidate. With PCL as documented, only the set of its
points counts, in whatever order they come. -/

namespace FlightStack.Proofs
open PoleDetectionNode
variable {α : Type} [Arithmetic α] {pcl : Pcl α} {parameters : DetectionParameters α} {cluster : List (Point α)}

/-- The sums over the top of a cluster, and how many points it has. -/
def topSums (pcl : Pcl α) (cluster : List (Point α)) : α × α × Nat :=
  topRegion (highest (pcl.getMinMax3D cluster).1.z cluster) cluster

def clusterDiameter (pcl : Pcl α) (cluster : List (Point α)) : α :=
  max ((pcl.getMinMax3D cluster).2.x - (pcl.getMinMax3D cluster).1.x)
    ((pcl.getMinMax3D cluster).2.y - (pcl.getMinMax3D cluster).1.y)

/-- The tests a cluster has passed. -/
structure Analyzed (pcl : Pcl α) (parameters : DetectionParameters α) (cluster : List (Point α))
    (candidate : PoleInfo α) : Prop where
  occupied : cluster ≠ []
  counted : (topSums pcl cluster).2.2 ≠ 0
  same : candidate = .construct ((topSums pcl cluster).1 / (topSums pcl cluster).2.2)
    ((topSums pcl cluster).2.1 / (topSums pcl cluster).2.2) (clusterDiameter pcl cluster)
  narrow : clusterDiameter pcl cluster < parameters.poleRadiusThreshold
  tall : parameters.minHeight < (pcl.getMinMax3D cluster).2.z - (pcl.getMinMax3D cluster).1.z
  low : highest (pcl.getMinMax3D cluster).1.z cluster < 2
  far : parameters.minValidDistance < candidate.distance

theorem analyzed_iff {candidate : PoleInfo α} :
    analyzePoleCandidate pcl parameters cluster = some candidate ↔ Analyzed pcl parameters cluster candidate := by
  unfold analyzePoleCandidate
  constructor
  · intro found
    dsimp only at found
    split at found
    · cases found
    next occupied =>
      split at found
      · cases found
      next counted =>
        split at found
        next passed =>
          obtain rfl := Option.some.inj found
          exact ⟨by simpa using occupied, counted, rfl, passed.1, passed.2.1, passed.2.2.1, passed.2.2.2⟩
        next => cases found
  · intro passed
    obtain ⟨occupied, counted, rfl, narrow, tall, low, far⟩ := passed
    have occupied : ¬ cluster.isEmpty = true := by simpa using occupied
    simp only [occupied]
    exact (if_neg counted).trans (if_pos ⟨narrow, tall, low, far⟩)

theorem mem_detectedPoles {cloud : List (Point α)} {clusterIndices : List (List Nat)} {candidate : PoleInfo α} :
    candidate ∈ detectedPoles pcl parameters cloud clusterIndices ↔ ∃ indices ∈ clusterIndices,
      Analyzed pcl parameters (Pcl.points cloud indices) candidate ∧
      isPositionInValidRange parameters candidate.x candidate.y = true := by
  simp only [detectedPoles, List.mem_filterMap]
  apply exists_congr
  intro indices
  apply and_congr_right
  intro _
  change (if (Pcl.points cloud indices).isEmpty = true then none else _) = _ ↔ _
  split
  next empty => exact iff_of_false nofun fun passed => passed.1.occupied (List.isEmpty_iff.mp empty)
  next =>
    rw [Option.filter_eq_some_iff]
    exact and_congr_left fun _ => analyzed_iff

/-! The two loops over a cluster -/

/-- The points within 10 cm of the highest one. -/
def topOf (cluster : List (Point α)) : List (Point α) :=
  cluster.filter fun point => ∀ other ∈ cluster, other.z - 0.1 ≤ point.z

theorem highest_greatest (low : α) (cluster : List (Point α)) :
    IsGreatest (insert low (Point.z '' {point | point ∈ cluster})) (highest low cluster) := by
  induction cluster generalizing low with
  | nil => simp [highest]
  | cons first rest ih =>
    have step : highest low (first :: rest) = highest (max low first.z) rest := by
      rw [highest, List.foldl_cons, highest]
      rcases lt_or_ge low first.z with above | below
      · rw [if_pos above, max_eq_right above.le]
      · rw [if_neg (not_lt.mpr below), max_eq_left below]
    obtain ⟨attained, bound⟩ := ih (max low first.z)
    rw [step]
    constructor
    · rcases attained with start | ⟨point, held, same⟩
      · rcases max_choice low first.z with left | right
        · exact .inl (start.trans left)
        · exact .inr ⟨first, List.mem_cons_self, (start.trans right).symm⟩
      · exact .inr ⟨point, List.mem_cons_of_mem _ held, same⟩
    · have start : max low first.z ≤ highest (max low first.z) rest := bound (.inl rfl)
      intro value member
      rcases member with rfl | ⟨point, held, rfl⟩
      · exact (le_max_left _ _).trans start
      · rcases List.mem_cons.mp held with rfl | later
        · exact (le_max_right _ _).trans start
        · exact bound (.inr ⟨point, later, rfl⟩)

theorem highest_eq {low high : Point α} (occupied : cluster ≠ []) (corners : Pcl.Corners cluster low high) :
    highest low.z cluster = high.z := by
  obtain ⟨attained, bound⟩ := highest_greatest low.z cluster
  obtain ⟨point, held⟩ := List.exists_mem_of_ne_nil cluster occupied
  obtain ⟨top, reached, same⟩ := (corners.greatest .z).1
  have upper {other : Point α} (member : other ∈ cluster) : other.z ≤ high.z :=
    (corners.greatest .z).2 ⟨other, member, rfl⟩
  apply le_antisymm
  · rcases attained with start | ⟨other, member, same⟩
    · exact start.le.trans (((corners.least .z).2 ⟨point, held, rfl⟩).trans (upper held))
    · exact same.ge.trans (upper member)
  · exact same.ge.trans (bound (.inr ⟨top, reached, rfl⟩))

/-- The second loop, from any sums on. -/
private theorem sums_eq (near : Point α → Prop) [DecidablePred near] (points : List (Point α)) (sumX sumY : α)
    (count : Nat) : points.foldl (fun (topX, topY, topPointCount) point =>
        if near point then (topX + point.x, topY + point.y, topPointCount + 1) else (topX, topY, topPointCount))
      (sumX, sumY, count) =
    (sumX + ((points.filter near).map Point.x).sum, sumY + ((points.filter near).map Point.y).sum,
      count + (points.filter near).length) := by
  induction points generalizing sumX sumY count with
  | nil => simp
  | cons first rest ih =>
    rw [List.foldl_cons]
    by_cases close : near first
    · simp only [close, if_true, ih]
      simp [close, add_assoc, Nat.add_comm 1]
    · simp only [close, if_false, ih]
      simp [close]

theorem topRegion_eq (maxZ : α) (cluster : List (Point α)) :
    let top := cluster.filter fun point => maxZ - 0.1 ≤ point.z
    topRegion maxZ cluster = ((top.map Point.x).sum, (top.map Point.y).sum, top.length) := by
  refine (sums_eq (fun point => maxZ - 0.1 ≤ point.z) cluster 0 0 0).trans ?_
  simp only [zero_add]

/-- The points that the second loop counts. -/
def nearTop (pcl : Pcl α) (cluster : List (Point α)) : List (Point α) :=
  cluster.filter fun point => highest (pcl.getMinMax3D cluster).1.z cluster - 0.1 ≤ point.z

theorem topSums_eq (pcl : Pcl α) (cluster : List (Point α)) : topSums pcl cluster =
    (((nearTop pcl cluster).map Point.x).sum, ((nearTop pcl cluster).map Point.y).sum, (nearTop pcl cluster).length) :=
  topRegion_eq _ _

theorem nearTop_eq (occupied : cluster ≠ [])
    (corners : Pcl.Corners cluster (pcl.getMinMax3D cluster).1 (pcl.getMinMax3D cluster).2) :
    nearTop pcl cluster = topOf cluster := by
  apply List.filter_congr
  intro point _
  obtain ⟨summit, reached, same⟩ := (corners.greatest .z).1
  rw [highest_eq occupied corners, decide_eq_decide]
  constructor
  · intro near other member
    exact (sub_le_sub_right ((corners.greatest .z).2 ⟨other, member, rfl⟩) _).trans near
  · intro near
    have reaches : summit.z = (pcl.getMinMax3D cluster).2.z := same
    exact reaches ▸ near summit reached

theorem topOf_ne_nil (occupied : cluster ≠ []) : topOf cluster ≠ [] := by
  have corners := Pcl.minMax3D_corners occupied
  obtain ⟨summit, reached, same⟩ := (corners.greatest .z).1
  refine List.ne_nil_of_mem (List.mem_filter.mpr ⟨reached, decide_eq_true fun other member => ?_⟩)
  have above := (corners.greatest .z).2 ⟨other, member, rfl⟩
  have margin : (0 : α) ≤ 0.1 := by norm_num
  exact (sub_le_self _ margin).trans (above.trans same.ge)

theorem nearTop_ne_nil (occupied : cluster ≠ [])
    (corners : Pcl.Corners cluster (pcl.getMinMax3D cluster).1 (pcl.getMinMax3D cluster).2) :
    nearTop pcl cluster ≠ [] := by
  rw [nearTop_eq occupied corners]
  exact topOf_ne_nil occupied

/-- The averages are never taken of nothing. -/
theorem counted_ne_zero (occupied : cluster ≠ [])
    (corners : Pcl.Corners cluster (pcl.getMinMax3D cluster).1 (pcl.getMinMax3D cluster).2) :
    (topSums pcl cluster).2.2 ≠ 0 := by
  rw [topSums_eq]
  intro empty
  exact nearTop_ne_nil occupied corners (List.length_eq_zero_iff.mp empty)

/-- What passes the tests, from the points of the cluster alone. -/
structure PoleShaped (parameters : DetectionParameters α) (cluster : List (Point α)) : Prop where
  narrowX : ∀ first ∈ cluster, ∀ second ∈ cluster, first.x - second.x < parameters.poleRadiusThreshold
  narrowY : ∀ first ∈ cluster, ∀ second ∈ cluster, first.y - second.y < parameters.poleRadiusThreshold
  tall : ∃ high ∈ cluster, ∃ low ∈ cluster, parameters.minHeight < high.z - low.z
  low : ∀ point ∈ cluster, point.z < 2
  far : parameters.minValidDistance <
    calculateDistance (mean ((topOf cluster).map Point.x)) (mean ((topOf cluster).map Point.y))

theorem Analyzed.position {candidate : PoleInfo α} (analyzed : Analyzed pcl parameters cluster candidate) :
    candidate = .construct (mean ((nearTop pcl cluster).map Point.x)) (mean ((nearTop pcl cluster).map Point.y))
      (clusterDiameter pcl cluster) := by
  rw [analyzed.same, topSums_eq]
  simp only [mean, List.length_map]

theorem analyzed_shaped (documented : pcl.Documented) (occupied : cluster ≠ []) :
    (∃ candidate, Analyzed pcl parameters cluster candidate) ↔ PoleShaped parameters cluster := by
  have corners := documented.getMinMax3D cluster occupied
  have summit := highest_eq occupied corners
  have top := nearTop_eq occupied corners
  have narrow : clusterDiameter pcl cluster < parameters.poleRadiusThreshold ↔ _ ∧ _ :=
    max_lt_iff.trans (and_congr (corners.extent_lt .x _) (corners.extent_lt .y _))
  have tall := corners.lt_extent .z parameters.minHeight
  have below := corners.high_lt .z 2
  constructor
  · intro found
    obtain ⟨candidate, analyzed⟩ := found
    have far := analyzed.far
    rw [analyzed.position, top] at far
    obtain ⟨narrowX, narrowY⟩ := narrow.mp analyzed.narrow
    exact ⟨narrowX, narrowY, tall.mp analyzed.tall, below.mp (summit.symm.trans_lt analyzed.low), far⟩
  · intro shaped
    have far := shaped.far
    simp only [← top, mean, List.length_map] at far
    refine ⟨_, occupied, counted_ne_zero occupied corners, rfl, narrow.mpr ⟨shaped.narrowX, shaped.narrowY⟩,
      tall.mpr shaped.tall, summit.trans_lt (below.mpr shaped.low), ?_⟩
    rw [topSums_eq]
    exact far

theorem topOf_perm {others : List (Point α)} (same : cluster.Perm others) : (topOf cluster).Perm (topOf others) := by
  simp only [topOf, same.mem_iff]
  exact same.filter _

theorem PoleShaped.perm {others : List (Point α)} (same : cluster.Perm others) (shaped : PoleShaped parameters cluster) :
    PoleShaped parameters others := by
  obtain ⟨narrowX, narrowY, tall, low, far⟩ := shaped
  simp only [same.mem_iff] at narrowX narrowY tall low
  refine ⟨narrowX, narrowY, tall, low, ?_⟩
  rwa [mean_perm ((topOf_perm same).map Point.x), mean_perm ((topOf_perm same).map Point.y)] at far

theorem mean_eq {coordinate : Point α → α} {value : α} {points : List (Point α)} (some : points ≠ [])
    (all : ∀ point ∈ points, coordinate point = value) : mean (points.map coordinate) = value := by
  have some : points.map coordinate ≠ [] := List.map_eq_nil_iff.not.mpr some
  apply le_antisymm
  · apply mean_le some
    rw [List.forall_mem_map]
    intro point held
    exact (all point held).le
  · apply le_mean some
    rw [List.forall_mem_map]
    intro point held
    exact (all point held).ge

/-! A thin stick in front of the sensor -/

noncomputable def stick (x : ℝ) : List (Point ℝ) := [⟨x, 0, 0.01⟩, ⟨x, 0, 0.1⟩, ⟨x, 0, 0.19⟩, ⟨x, 0, 0.28⟩]

theorem mem_stick {x : ℝ} {point : Point ℝ} (held : point ∈ stick x) :
    point.x = x ∧ point.y = 0 ∧ 0.01 ≤ point.z ∧ point.z ≤ 0.28 := by
  simp only [stick, List.mem_cons, List.not_mem_nil, or_false] at held
  rcases held with rfl | rfl | rfl | rfl <;> norm_num

theorem stick_group (x : ℝ) : Components.Group (Pcl.Near 0.1) (stick x) (stick x) := by
  apply Components.group_chain
  · norm_num
  · norm_num [Pcl.Near]

theorem stick_top {x : ℝ} {cluster : List (Point ℝ)} (occupied : cluster ≠ []) (within : cluster ⊆ stick x) :
    mean ((topOf cluster).map Point.x) = x ∧ mean ((topOf cluster).map Point.y) = 0 := by
  have some := topOf_ne_nil occupied
  have held (point : Point ℝ) (top : point ∈ topOf cluster) := mem_stick (within (List.mem_filter.mp top).1)
  exact ⟨mean_eq some fun point top => (held point top).1, mean_eq some fun point top => (held point top).2.1⟩

theorem stick_shaped {x : ℝ} (away : 0.1 < x) : PoleShaped .declared (stick x) := by
  have some : stick x ≠ [] := List.cons_ne_nil _ _
  have top := stick_top some (List.Subset.refl (stick x))
  refine ⟨?_, ?_, ⟨⟨x, 0, 0.28⟩, by simp [stick], ⟨x, 0, 0.01⟩, by simp [stick], ?_⟩, ?_, ?_⟩
  · intro first held second there
    norm_num [(mem_stick held).1, (mem_stick there).1, DetectionParameters.declared]
  · intro first held second there
    norm_num [(mem_stick held).2.1, (mem_stick there).2.1, DetectionParameters.declared]
  · norm_num [DetectionParameters.declared]
  · intro point held
    exact (mem_stick held).2.2.2.trans_lt (by norm_num)
  · rw [top.1, top.2]
    change (0.1 : ℝ) < Real.sqrt (x * x + 0 * 0)
    rwa [mul_zero, add_zero, Real.sqrt_mul_self (by linarith)]

/-- A stick in range is a candidate, at the place where it stands. -/
theorem stick_candidates {pcl : Pcl ℝ} (documented : pcl.Documented) {x : ℝ} (away : 0.1 < x) (near : x ≤ 2) :
    let candidates := detectedPoles pcl .declared (stick x) (performClustering pcl .declared (stick x))
    candidates ≠ [] ∧ ∀ candidate ∈ candidates, candidate.x = x ∧ candidate.y = 0 := by
  intro candidates
  have once : (stick x).Nodup := (stick_group x).once
  have placed (indices : List Nat) (found : indices ∈ performClustering pcl .declared (stick x)) (candidate : PoleInfo ℝ)
      (analyzed : Analyzed pcl .declared (Pcl.points (stick x) indices) candidate) : candidate.x = x ∧ candidate.y = 0 := by
    have within := (documented.extracts _ _ _ _ once indices found).1.subset
    rw [analyzed.position, nearTop_eq analyzed.occupied (documented.getMinMax3D _ analyzed.occupied)]
    exact stick_top analyzed.occupied within
  constructor
  · obtain ⟨indices, found, same⟩ := documented.complete _ 1 10000 _ once (stick x) (stick_group x) (by simp [stick])
      (by simp [stick])
    have occupied : Pcl.points (stick x) indices ≠ [] := by
      intro empty
      rw [empty] at same
      cases same.nil_eq
    obtain ⟨candidate, analyzed⟩ := (analyzed_shaped documented occupied).mpr ((stick_shaped away).perm same.symm)
    obtain ⟨atX, atY⟩ := placed indices found candidate analyzed
    refine List.ne_nil_of_mem (mem_detectedPoles.mpr ⟨indices, found, analyzed, ?_⟩)
    simp only [isPositionInValidRange, DetectionParameters.declared, atX, atY, Bool.and_eq_true, decide_eq_true_eq]
    exact ⟨⟨⟨away.le, near⟩, by norm_num⟩, by norm_num⟩
  · intro candidate member
    obtain ⟨indices, found, analyzed, _⟩ := mem_detectedPoles.mp member
    exact placed indices found candidate analyzed

/-- A single point is no pole. -/
theorem point_candidates {pcl : Pcl ℝ} (documented : pcl.Documented) (point : Point ℝ) :
    detectedPoles pcl .declared [point] (performClustering pcl .declared [point]) = [] := by
  rw [List.eq_nil_iff_forall_not_mem]
  intro candidate member
  obtain ⟨indices, found, analyzed, _⟩ := mem_detectedPoles.mp member
  have within := (documented.extracts _ _ _ _ (List.nodup_singleton _) indices found).1.subset
  obtain ⟨high, top, low, bottom, tall⟩ := ((analyzed_shaped documented analyzed.occupied).mp ⟨_, analyzed⟩).tall
  rw [List.mem_singleton.mp (within top), List.mem_singleton.mp (within bottom)] at tall
  norm_num [DetectionParameters.declared] at tall

end FlightStack.Proofs
