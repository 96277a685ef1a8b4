import FlightStack.Proofs.LivoxFrames

/-! Tall structures. The second node refuses what reaches up to 2 m, but the first
one has cut everything off at 1 m by then. -/

namespace FlightStack.Proofs
open LivoxToPointCloud2 PoleDetectionNode Pipeline

section Pieces
variable {α : Type} [Arithmetic α] {pcl : Pcl α} {pclFilters : PclFilters α} {parameters : DetectionParameters α}
  {message : CustomMsg α} {piece : List (Point α)}

/-- The poles that are published as detected at the tick after a message. -/
def reported (pcl : Pcl α) (pclFilters : PclFilters α) (parameters : DetectionParameters α) (message : CustomMsg α)
    (node : PoleDetectionNode α) : List (Pole α) :=
  match customMsgCallback pclFilters message with
  | some published =>
    (processPointCloud pcl parameters (lidarCallback (fromROSMsg published) node)).2.flatten.filter (·.detected)
  | none => []

theorem reported_eq (node : PoleDetectionNode α) : reported pcl pclFilters parameters message node =
    if (customMsgCallback pclFilters message).isSome then
      (publishPoleDetection (tracked pcl pclFilters parameters message node).poleList).filter (·.detected)
    else [] := by
  unfold reported
  cases sent : customMsgCallback pclFilters message with
  | none => rfl
  | some published =>
    have held := published_ne_nil sent
    simp [processPointCloud, lidarCallback, analyzeClusters, tracked, messageCandidates, sent, held]

/-- Every candidate leaves a detected pole, and nothing else does. -/
theorem none_detected {candidates : List (PoleInfo α)} {node : PoleDetectionNode α}
    (fresh : ∀ candidate ∈ candidates, Candidate candidate) :
    (∀ pole ∈ (track parameters candidates node).poleList, pole.detected = false) ↔ candidates = [] := by
  rw [track_eq parameters candidates node fresh]
  constructor
  · intro missed
    by_contra some
    obtain ⟨pole, paired⟩ := Paired.total parameters node (List.length_pos_of_ne_nil some)
    obtain ⟨member, detected⟩ := detected_iff.mpr ⟨0, paired⟩
    rw [missed pole member] at detected
    cases detected
  · intro none pole member
    subst none
    by_contra detected
    obtain ⟨num, paired⟩ := detected_iff.mp ⟨member, by simpa using detected⟩
    exact Nat.not_lt_zero num paired.inside

theorem reported_eq_nil (node : PoleDetectionNode α) :
    reported pcl pclFilters parameters message node = [] ↔ messageCandidates pcl pclFilters parameters message = [] := by
  rw [reported_eq]
  cases sent : customMsgCallback pclFilters message with
  | none => simp [messageCandidates, sent]
  | some published =>
    have shown : tracked pcl pclFilters parameters message node = track parameters
        (messageCandidates pcl pclFilters parameters message)
        { node with cloud := fromROSMsg published, newData := false } := by rw [tracked, sent]
    rw [← none_detected (messageCandidates_fresh message), ← shown]
    simp [publishPoleDetection]

/-- One upright object, which reaches up to 2 m. -/
structure TallObject (parameters : DetectionParameters α) (message : CustomMsg α) : Prop where
  narrowX : ∀ first ∈ fillCloud message, ∀ second ∈ fillCloud message,
    first.x - second.x < parameters.poleRadiusThreshold
  narrowY : ∀ first ∈ fillCloud message, ∀ second ∈ fillCloud message,
    first.y - second.y < parameters.poleRadiusThreshold
  inRange : ∀ point ∈ fillCloud message, isPositionInValidRange parameters point.x point.y = true
  tall : ∃ point ∈ fillCloud message, 2 ≤ point.z

/-- The centroids of the voxels that hold a point of the box. -/
def thinned (message : CustomMsg α) : List (Point α) :=
  (VoxelGrid.exact 0.05 0.05 0.05 (boxed message)).map PointXYZI.toPoint

/-- A connected piece of what is in the box, tall enough and far enough away. -/
structure Remnant (parameters : DetectionParameters α) (message : CustomMsg α) (piece : List (Point α)) : Prop where
  connected : Components.Group (Pcl.Near parameters.clusterTolerance) (thinned message) piece
  least : parameters.minClusterSize ≤ piece.length
  most : piece.length ≤ parameters.maxClusterSize
  tall : ∃ high ∈ piece, ∃ low ∈ piece, parameters.minHeight < high.z - low.z
  far : parameters.minValidDistance <
    calculateDistance (mean ((topOf piece).map Point.x)) (mean ((topOf piece).map Point.y))

theorem mem_thinned {point : Point α} (member : point ∈ thinned message) : ∃ cell : List (PointXYZI α),
    cell ≠ [] ∧ cell ⊆ boxed message ∧ point = (VoxelGrid.centroid cell).toPoint := by
  simp only [thinned, VoxelGrid.exact, List.map_map, List.mem_map] at member
  obtain ⟨voxel, occupied, rfl⟩ := member
  exact ⟨_, VoxelGrid.inVoxel_ne_nil occupied, fun point held => (List.mem_filter.mp held).1, rfl⟩

/-- Bounds on the points in the box are bounds on the centroids. -/
theorem thinned_le (axis : Axis) {bound : α} (above : ∀ point ∈ boxed message, axis.of point.toPoint ≤ bound) :
    ∀ point ∈ thinned message, axis.of point ≤ bound := by
  intro point member
  obtain ⟨cell, some, held, rfl⟩ := mem_thinned member
  rw [VoxelGrid.centroid_axis]
  apply mean_le (by simpa using some)
  rw [List.forall_mem_map]
  intro point inside
  exact above point (held inside)

theorem le_thinned (axis : Axis) {bound : α} (below : ∀ point ∈ boxed message, bound ≤ axis.of point.toPoint) :
    ∀ point ∈ thinned message, bound ≤ axis.of point := by
  intro point member
  obtain ⟨cell, some, held, rfl⟩ := mem_thinned member
  rw [VoxelGrid.centroid_axis]
  apply le_mean (by simpa using some)
  rw [List.forall_mem_map]
  intro point inside
  exact below point (held inside)

theorem thinned_narrow (axis : Axis) {bound : α} (narrow : ∀ first ∈ boxed message, ∀ second ∈ boxed message,
      axis.of first.toPoint - axis.of second.toPoint < bound) :
    ∀ first ∈ thinned message, ∀ second ∈ thinned message, axis.of first - axis.of second < bound := by
  intro first member second other
  obtain ⟨cell, some, held, rfl⟩ := mem_thinned member
  obtain ⟨next, more, there, rfl⟩ := mem_thinned other
  rw [VoxelGrid.centroid_axis, VoxelGrid.centroid_axis]
  apply mean_sub_lt (by simpa using some) (by simpa using more)
  rw [List.forall_mem_map]
  intro point inside
  rw [List.forall_mem_map]
  intro another within
  exact narrow point (held inside) another (there within)

theorem boxed_filled {point : PointXYZI α} (held : point ∈ boxed message) :
    point ∈ fillCloud message ∧ point.z ≤ 1 := by
  obtain ⟨filled, inside⟩ := List.mem_filter.mp held
  simp only [inBox, Bool.and_eq_true, decide_eq_true_eq] at inside
  exact ⟨filled, inside.2.2⟩

/-- A narrow object passes the tests on its width. The test for roofs comes to nothing,
since no centroid lies above 1 m. -/
theorem Remnant.shaped (tall : TallObject parameters message) (remnant : Remnant parameters message piece) :
    PoleShaped parameters piece := by
  have within := remnant.connected.subset
  have narrowX := thinned_narrow .x fun first held second there =>
    tall.narrowX first (boxed_filled held).1 second (boxed_filled there).1
  have narrowY := thinned_narrow .y fun first held second there =>
    tall.narrowY first (boxed_filled held).1 second (boxed_filled there).1
  have low : ∀ point ∈ thinned message, point.z ≤ 1 := thinned_le .z fun point held => (boxed_filled held).2
  refine ⟨fun first held second there => narrowX first (within held) second (within there),
    fun first held second there => narrowY first (within held) second (within there), remnant.tall, ?_, remnant.far⟩
  intro point held
  exact (low point (within held)).trans_lt one_lt_two

/-- The middle of some centroids is in the range that is published. -/
theorem thinned_inRange (tall : TallObject parameters message) {points : List (Point α)} (some : points ≠ [])
    (within : points ⊆ thinned message) :
    isPositionInValidRange parameters (mean (points.map Point.x)) (mean (points.map Point.y)) = true := by
  have range (point : PointXYZI α) (held : point ∈ boxed message) := tall.inRange point (boxed_filled held).1
  simp only [isPositionInValidRange, Bool.and_eq_true, decide_eq_true_eq] at range ⊢
  have left := le_thinned .x fun point held => (range point held).1.1.1
  have right := thinned_le .x fun point held => (range point held).1.1.2
  have bottom := le_thinned .y fun point held => (range point held).1.2
  have top := thinned_le .y fun point held => (range point held).2
  have mapped (coordinate : Point α → α) : points.map coordinate ≠ [] := List.map_eq_nil_iff.not.mpr some
  refine ⟨⟨⟨le_mean (mapped _) ?_, mean_le (mapped _) ?_⟩, le_mean (mapped _) ?_⟩, mean_le (mapped _) ?_⟩ <;>
    refine List.forall_mem_map.mpr fun point held => ?_
  · exact left point (within held)
  · exact right point (within held)
  · exact bottom point (within held)
  · exact top point (within held)

theorem candidates_remnant (calls : pcl.Documented) (documented : pclFilters.Documented) (tall : TallObject parameters message) :
    messageCandidates pcl pclFilters parameters message ≠ [] ↔ ∃ piece, Remnant parameters message piece := by
  have sent := callback_eq documented message
  by_cases empty : boxed message = []
  · rw [if_pos empty] at sent
    have nothing : thinned message = [] := by simp [thinned, VoxelGrid.exact, VoxelGrid.voxels, empty]
    apply iff_of_false (by simp [messageCandidates, sent])
    intro left
    obtain ⟨piece, remnant⟩ := left
    exact remnant.connected.ne_nil (List.subset_nil.mp (nothing ▸ remnant.connected.subset))
  rw [if_neg empty] at sent
  have same := ((documented.voxelGrid.perm leaf_pos leaf_pos leaf_pos (boxed message)).map PointXYZI.toPoint)
  have once := same.nodup_iff.mpr (VoxelGrid.exact_nodup leaf_pos leaf_pos leaf_pos (boxed message))
  have connected (piece : List (Point α)) : Components.Group (Pcl.Near parameters.clusterTolerance) _ piece ↔
      Components.Group (Pcl.Near parameters.clusterTolerance) (thinned message) piece :=
    Components.Group.congr fun point => same.mem_iff
  simp only [messageCandidates, sent, fromROSMsg]
  constructor
  · intro some
    obtain ⟨candidate, member⟩ := List.exists_mem_of_ne_nil _ some
    obtain ⟨indices, found, analyzed, _⟩ := mem_detectedPoles.mp member
    obtain ⟨group, least, most⟩ := calls.extracts _ _ _ _ once indices found
    have shaped := (analyzed_shaped calls analyzed.occupied).mp ⟨candidate, analyzed⟩
    exact ⟨_, (connected _).mp group, least, most, shaped.tall, shaped.far⟩
  · intro left
    obtain ⟨piece, remnant⟩ := left
    obtain ⟨indices, found, listed⟩ := calls.complete _ _ _ _ once piece ((connected piece).mpr remnant.connected)
      remnant.least remnant.most
    have occupied : Pcl.points _ indices ≠ [] := fun empty =>
      remnant.connected.ne_nil (List.perm_nil.mp (empty ▸ listed.symm))
    obtain ⟨candidate, analyzed⟩ := (analyzed_shaped calls occupied).mpr ((remnant.shaped tall).perm listed.symm)
    refine List.ne_nil_of_mem (mem_detectedPoles.mpr ⟨indices, found, analyzed, ?_⟩)
    rw [analyzed.position, nearTop_eq occupied (calls.getMinMax3D _ occupied)]
    apply thinned_inRange tall (topOf_ne_nil occupied)
    intro point top
    exact remnant.connected.subset (listed.subset (List.mem_filter.mp top).1)

end Pieces

variable {α : Type} [Arithmetic α]

theorem tall_structures {pcl : Pcl α} (calls : pcl.Documented) {pclFilters : PclFilters α} (documented : pclFilters.Documented)
    {parameters : DetectionParameters α} {message : CustomMsg α} (tall : TallObject parameters message)
    (node : PoleDetectionNode α) :
    reported pcl pclFilters parameters message node = [] ↔ ¬ ∃ piece, Remnant parameters message piece := by
  rw [reported_eq_nil, ← candidates_remnant calls documented tall, not_not]

/-! Objects at one place -/

theorem upright {points : List (Point ℝ)} (placed : ∀ point ∈ points, point.x = 1 ∧ point.y = 0)
    (tall : ∃ point ∈ points, 2 ≤ point.z) : TallObject .declared (scan points) := by
  have stands : ∀ point ∈ fillCloud (scan points), point.x = 1 ∧ point.y = 0 := by
    rw [fillCloud_scan]
    exact List.forall_mem_map.mpr placed
  refine ⟨fun first held second there => ?_, fun first held second there => ?_, fun point held => ?_, ?_⟩
  · norm_num [(stands first held).1, (stands second there).1, DetectionParameters.declared]
  · norm_num [(stands first held).2, (stands second there).2, DetectionParameters.declared]
  · norm_num [isPositionInValidRange, (stands point held).1, (stands point held).2, DetectionParameters.declared]
  · obtain ⟨point, held, high⟩ := tall
    rw [fillCloud_scan]
    exact ⟨_, List.mem_map_of_mem held, high⟩

theorem thinned_scan {points kept : List (Point ℝ)} (inside : points.filter inBox = kept)
    (apart : (kept.map (VoxelGrid.voxelOf 0.05 0.05 0.05)).Nodup) : thinned (scan points) = kept := by
  rw [thinned, boxed_scan, inside, VoxelGrid.exact_apart (by simpa [Function.comp_def] using apart)]
  simp [Function.comp_def]

/-- Of a pillar only one point below 1 m is seen. -/
theorem tall_structures_pillar : reported .exact .exact .declared (scan [(⟨1, 0, 0⟩ : Point ℝ), ⟨1, 0, 2⟩]) .initial = [] := by
  have tall : TallObject .declared (scan [(⟨1, 0, 0⟩ : Point ℝ), ⟨1, 0, 2⟩]) := upright (by simp) (by simp)
  apply (tall_structures Pcl.exact_documented PclFilters.exact_documented tall .initial).mpr
  intro left
  obtain ⟨piece, remnant⟩ := left
  have one : thinned (scan [(⟨1, 0, 0⟩ : Point ℝ), ⟨1, 0, 2⟩]) = [⟨1, 0, 0⟩] :=
    thinned_scan (by norm_num [inBox]) (List.nodup_singleton _)
  obtain ⟨high, top, low, bottom, far⟩ := remnant.tall
  have within := one ▸ remnant.connected.subset
  rw [List.mem_singleton.mp (within top), List.mem_singleton.mp (within bottom)] at far
  norm_num [DetectionParameters.declared] at far

/-- A pole is cut out of the lower part of a pillar. -/
theorem tall_structure_reported : TallObject .declared (scan (stick 1 ++ [⟨1, 0, 2⟩])) ∧
    reported .exact .exact .declared (scan (stick 1 ++ [⟨1, 0, 2⟩])) .initial ≠ [] := by
  constructor
  · apply upright
    · intro point held
      rcases List.mem_append.mp held with low | high
      · exact ⟨(mem_stick low).1, (mem_stick low).2.1⟩
      · simp [List.mem_singleton.mp high]
    · exact ⟨⟨1, 0, 2⟩, List.mem_append_right _ List.mem_cons_self, le_rfl⟩
  · obtain ⟨offered, _⟩ := stick_candidates Pcl.exact_documented (show (0.1 : ℝ) < 1 by norm_num) (by norm_num)
    rw [Ne, reported_eq_nil, scan_stick (by norm_num) (by norm_num) [⟨1, 0, 2⟩] (by norm_num [inBox])]
    exact offered

end FlightStack.Proofs
