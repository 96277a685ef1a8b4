import FlightStack.Proofs.Candidates

/-! Where a candidate stands, and when a cluster gives one. Of PCL only the bounding
box counts here. -/

namespace FlightStack.Proofs
open PoleDetectionNode
variable {α : Type} [Arithmetic α] {pcl : Pcl α} {parameters : DetectionParameters α} {cluster : List (Point α)}

/-- The mean of the points that are counted. -/
def topMean (pcl : Pcl α) (cluster : List (Point α)) (axis : Axis) : α := mean ((nearTop pcl cluster).map axis.of)

/-- `is_pole`, with the position that the sums stand for -/
def IsPole (pcl : Pcl α) (parameters : DetectionParameters α) (cluster : List (Point α)) : Prop :=
  clusterDiameter pcl cluster < parameters.poleRadiusThreshold ∧
  parameters.minHeight < (pcl.getMinMax3D cluster).2.z - (pcl.getMinMax3D cluster).1.z ∧
  highest (pcl.getMinMax3D cluster).1.z cluster < 2 ∧
  parameters.minValidDistance < calculateDistance (topMean pcl cluster .x) (topMean pcl cluster .y)

/-- What the function makes of a cluster and of its bounding box. -/
structure PoleGeometry (pcl : Pcl α) (parameters : DetectionParameters α) (cluster : List (Point α)) : Prop where
  counted : (topRegion (highest (pcl.getMinMax3D cluster).1.z cluster) cluster).2.2 ≠ 0
  summit : IsGreatest (Point.z '' {point | point ∈ cluster}) (highest (pcl.getMinMax3D cluster).1.z cluster)
  returned : ∀ candidate, analyzePoleCandidate pcl parameters cluster = some candidate ↔
    IsPole pcl parameters cluster ∧
      candidate = .construct (topMean pcl cluster .x) (topMean pcl cluster .y) (clusterDiameter pcl cluster)
  inside : ∀ candidate, analyzePoleCandidate pcl parameters cluster = some candidate →
    candidate.x ∈ Set.Icc (pcl.getMinMax3D cluster).1.x (pcl.getMinMax3D cluster).2.x ∧
    candidate.y ∈ Set.Icc (pcl.getMinMax3D cluster).1.y (pcl.getMinMax3D cluster).2.y
  unordered : ∀ others, cluster.Perm others →
    analyzePoleCandidate pcl parameters others = analyzePoleCandidate pcl parameters cluster

section Cluster
variable (occupied : cluster ≠ [])
  (corners : Pcl.Corners cluster (pcl.getMinMax3D cluster).1 (pcl.getMinMax3D cluster).2)
include occupied corners

theorem highest_isGreatest :
    IsGreatest (Point.z '' {point | point ∈ cluster}) (highest (pcl.getMinMax3D cluster).1.z cluster) := by
  rw [highest_eq occupied corners]
  exact corners.greatest .z

theorem returned_iff {candidate : PoleInfo α} : analyzePoleCandidate pcl parameters cluster = some candidate ↔
    IsPole pcl parameters cluster ∧
      candidate = .construct (topMean pcl cluster .x) (topMean pcl cluster .y) (clusterDiameter pcl cluster) := by
  rw [analyzed_iff]
  constructor
  · intro analyzed
    have far := analyzed.far
    rw [analyzed.position] at far
    exact ⟨⟨analyzed.narrow, analyzed.tall, analyzed.low, far⟩, analyzed.position⟩
  · intro passed
    obtain ⟨⟨narrow, tall, low, far⟩, rfl⟩ := passed
    refine ⟨occupied, counted_ne_zero occupied corners, ?_, narrow, tall, low, far⟩
    rw [topSums_eq, topMean, topMean, mean, mean, List.length_map, List.length_map]
    rfl

theorem position_inside {candidate : PoleInfo α}
    (found : analyzePoleCandidate pcl parameters cluster = some candidate) :
    candidate.x ∈ Set.Icc (pcl.getMinMax3D cluster).1.x (pcl.getMinMax3D cluster).2.x ∧
    candidate.y ∈ Set.Icc (pcl.getMinMax3D cluster).1.y (pcl.getMinMax3D cluster).2.y := by
  have some := nearTop_ne_nil occupied corners
  have within : nearTop pcl cluster ⊆ cluster := List.filter_subset_self _
  rw [(analyzed_iff.mp found).position]
  exact ⟨corners.mean_mem some within .x, corners.mean_mem some within .y⟩

end Cluster

theorem analyze_perm (boxed : ∀ cluster, cluster ≠ [] →
      Pcl.Corners cluster (pcl.getMinMax3D cluster).1 (pcl.getMinMax3D cluster).2)
    {others : List (Point α)} (same : cluster.Perm others) (occupied : cluster ≠ []) :
    analyzePoleCandidate pcl parameters others = analyzePoleCandidate pcl parameters cluster := by
  have more : others ≠ [] := fun empty => occupied (List.perm_nil.mp (empty ▸ same))
  have corners := boxed cluster occupied
  have again := boxed others more
  have box : pcl.getMinMax3D others = pcl.getMinMax3D cluster := by
    obtain ⟨low, high⟩ := again.unique (corners.perm same)
    exact Prod.ext low high
  have width : clusterDiameter pcl others = clusterDiameter pcl cluster := by rw [clusterDiameter, clusterDiameter, box]
  have summit : highest (pcl.getMinMax3D others).1.z others = highest (pcl.getMinMax3D cluster).1.z cluster := by
    rw [highest_eq more again, highest_eq occupied corners, box]
  have top : (nearTop pcl others).Perm (nearTop pcl cluster) := by
    rw [nearTop_eq more again, nearTop_eq occupied corners]
    exact topOf_perm same.symm
  have centre (axis : Axis) : topMean pcl others axis = topMean pcl cluster axis := mean_perm (top.map axis.of)
  apply Option.ext
  intro candidate
  rw [returned_iff more again, returned_iff occupied corners, IsPole, IsPole, summit, width, box, centre, centre]

/-- The geometry of a pole, for any PCL that finds the bounding box. -/
theorem pole_geometry (boxed : ∀ cluster : List (Point α), cluster ≠ [] →
      Pcl.Corners cluster (pcl.getMinMax3D cluster).1 (pcl.getMinMax3D cluster).2)
    (parameters : DetectionParameters α) (occupied : cluster ≠ []) : PoleGeometry pcl parameters cluster := by
  have corners := boxed cluster occupied
  constructor
  · exact counted_ne_zero occupied corners
  · exact highest_isGreatest occupied corners
  · intro candidate
    exact returned_iff occupied corners
  · intro candidate found
    exact position_inside occupied corners found
  · intro others same
    exact analyze_perm boxed same occupied

theorem stick_geometry : stick 1 ≠ [] ∧ PoleGeometry Pcl.exact .declared (stick 1) :=
  ⟨List.cons_ne_nil _ _, pole_geometry (fun _ => Pcl.minMax3D_corners) .declared (List.cons_ne_nil _ _)⟩

end FlightStack.Proofs
