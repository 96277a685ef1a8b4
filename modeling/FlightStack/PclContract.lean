import FlightStack.LivoxToPcl
import FlightStack.Library.Averages
import FlightStack.Library.Components
import Mathlib.Order.Bounds.Basic

/-! What PCL documents of the calls the nodes make, and a PCL that keeps it. -/

namespace FlightStack
variable {α : Type} [Arithmetic α]

namespace Pcl

omit [Arithmetic α] in
theorem eq_of_axes {first second : Point α} (same : ∀ axis : Axis, axis.of first = axis.of second) : first = second := by
  obtain ⟨x, y, z⟩ := first
  rw [show x = second.x from same .x, show y = second.y from same .y, show z = second.z from same .z]

/-- The two corners of a cluster, as `getMinMax3D` documents them. -/
structure Corners (cluster : List (Point α)) (low high : Point α) : Prop where
  least : ∀ axis : Axis, IsLeast (axis.of '' {point | point ∈ cluster}) (axis.of low)
  greatest : ∀ axis : Axis, IsGreatest (axis.of '' {point | point ∈ cluster}) (axis.of high)

namespace Corners
variable {cluster : List (Point α)} {low high : Point α} (corners : Corners cluster low high)
include corners

theorem extent_lt (axis : Axis) (bound : α) : axis.of high - axis.of low < bound ↔
    ∀ first ∈ cluster, ∀ second ∈ cluster, axis.of first - axis.of second < bound := by
  constructor
  · intro narrow first held second there
    have upper := (corners.greatest axis).2 ⟨first, held, rfl⟩
    have lower := (corners.least axis).2 ⟨second, there, rfl⟩
    exact (sub_le_sub upper lower).trans_lt narrow
  · intro close
    obtain ⟨first, held, top⟩ := (corners.greatest axis).1
    obtain ⟨second, there, bottom⟩ := (corners.least axis).1
    exact top ▸ bottom ▸ close first held second there

theorem lt_extent (axis : Axis) (bound : α) : bound < axis.of high - axis.of low ↔
    ∃ first ∈ cluster, ∃ second ∈ cluster, bound < axis.of first - axis.of second := by
  constructor
  · intro wide
    obtain ⟨first, held, top⟩ := (corners.greatest axis).1
    obtain ⟨second, there, bottom⟩ := (corners.least axis).1
    exact ⟨first, held, second, there, by rwa [top, bottom]⟩
  · intro apart
    obtain ⟨first, held, second, there, far⟩ := apart
    have upper := (corners.greatest axis).2 ⟨first, held, rfl⟩
    have lower := (corners.least axis).2 ⟨second, there, rfl⟩
    exact far.trans_le (sub_le_sub upper lower)

theorem high_lt (axis : Axis) (bound : α) :
    axis.of high < bound ↔ ∀ point ∈ cluster, axis.of point < bound := by
  constructor
  · intro below point held
    exact ((corners.greatest axis).2 ⟨point, held, rfl⟩).trans_lt below
  · intro below
    obtain ⟨point, held, top⟩ := (corners.greatest axis).1
    exact top ▸ below point held

theorem extent_nonneg (axis : Axis) : 0 ≤ axis.of high - axis.of low := by
  obtain ⟨point, held, top⟩ := (corners.greatest axis).1
  exact sub_nonneg.mpr (top ▸ (corners.least axis).2 ⟨point, held, rfl⟩)

theorem unique {least most : Point α} (others : Corners cluster least most) : low = least ∧ high = most := by
  constructor
  · exact eq_of_axes fun axis => (corners.least axis).unique (others.least axis)
  · exact eq_of_axes fun axis => (corners.greatest axis).unique (others.greatest axis)

theorem perm {others : List (Point α)} (same : cluster.Perm others) : Corners others low high := by
  have members : {point | point ∈ others} = {point | point ∈ cluster} := Set.ext fun point => same.mem_iff.symm
  constructor
  · rw [members]
    exact corners.least
  · rw [members]
    exact corners.greatest

/-- The mean of some points of a box is in the box. -/
theorem mean_mem {points : List (Point α)} (some : points ≠ []) (within : points ⊆ cluster) (axis : Axis) :
    mean (points.map axis.of) ∈ Set.Icc (axis.of low) (axis.of high) := by
  have some : points.map axis.of ≠ [] := List.map_eq_nil_iff.not.mpr some
  constructor
  · apply le_mean some
    rw [List.forall_mem_map]
    intro point held
    exact (corners.least axis).2 ⟨point, within held, rfl⟩
  · apply mean_le some
    rw [List.forall_mem_map]
    intro point held
    exact (corners.greatest axis).2 ⟨point, within held, rfl⟩

end Corners

/-- What a search of the neighbourhood finds. -/
def Near (tolerance : α) (first second : Point α) : Prop :=
  (first.x - second.x) ^ 2 + (first.y - second.y) ^ 2 + (first.z - second.z) ^ 2 < tolerance ^ 2

/-- `pcl::copyPointCloud`, for the indices of a cluster -/
def points (cloud : List (Point α)) (indices : List Nat) : List (Point α) := indices.filterMap (cloud[·]?)

/-- The calls do what they document. Clusters are spoken of as sets of points, so
the part about them is for a cloud that holds no point twice. -/
structure Documented (pcl : Pcl α) : Prop where
  getMinMax3D : ∀ cluster, cluster ≠ [] → Corners cluster (pcl.getMinMax3D cluster).1 (pcl.getMinMax3D cluster).2
  extracts : ∀ tolerance least most cloud, cloud.Nodup → ∀ indices ∈ pcl.extract tolerance least most cloud,
    Components.Group (Near tolerance) cloud (points cloud indices) ∧
      least ≤ (points cloud indices).length ∧ (points cloud indices).length ≤ most
  complete : ∀ tolerance (least most : Int) cloud, cloud.Nodup → ∀ group,
    Components.Group (Near tolerance) cloud group → least ≤ group.length → group.length ≤ most →
    ∃ indices ∈ pcl.extract tolerance least most cloud, (points cloud indices).Perm group

/-! A PCL that keeps the contract -/

def minMax3D (cluster : List (Point α)) : Point α × Point α :=
  let low (axis : Axis) := ((cluster.map axis.of).min?).getD 0
  let high (axis : Axis) := ((cluster.map axis.of).max?).getD 0
  (⟨low .x, low .y, low .z⟩, ⟨high .x, high .y, high .z⟩)

theorem minMax3D_corners {cluster : List (Point α)} (occupied : cluster ≠ []) :
    Corners cluster (minMax3D cluster).1 (minMax3D cluster).2 := by
  have some (axis : Axis) : cluster.map axis.of ≠ [] := List.map_eq_nil_iff.not.mpr occupied
  have least (axis : Axis) : axis.of (minMax3D cluster).1 = ((cluster.map axis.of).min?).getD 0 := by cases axis <;> rfl
  have most (axis : Axis) : axis.of (minMax3D cluster).2 = ((cluster.map axis.of).max?).getD 0 := by cases axis <;> rfl
  constructor
  · intro axis
    rw [least axis]
    obtain ⟨value, found⟩ := Option.ne_none_iff_exists'.mp (List.min?_eq_none_iff.not.mpr (some axis))
    obtain ⟨member, below⟩ := List.min?_eq_some_iff.mp found
    rw [found]
    refine ⟨by simpa using member, ?_⟩
    intro value member
    obtain ⟨point, held, rfl⟩ := member
    exact below _ (List.mem_map_of_mem held)
  · intro axis
    rw [most axis]
    obtain ⟨value, found⟩ := Option.ne_none_iff_exists'.mp (List.max?_eq_none_iff.not.mpr (some axis))
    obtain ⟨member, above⟩ := List.max?_eq_some_iff.mp found
    rw [found]
    refine ⟨by simpa using member, ?_⟩
    intro value member
    obtain ⟨point, held, rfl⟩ := member
    exact above _ (List.mem_map_of_mem held)

open Classical in
/-- The indices of the points that hang together with `seed`. -/
noncomputable def indicesOf (tolerance : α) (cloud : List (Point α)) (seed : Point α) : List Nat :=
  (cloud.zipIdx.filter fun entry => Components.Linked (Near tolerance) cloud seed entry.1).map Prod.snd

noncomputable def exact : Pcl α where
  extract tolerance least most cloud :=
    ((cloud.map (indicesOf tolerance cloud)).filter fun indices =>
      least ≤ indices.length ∧ indices.length ≤ most).dedup
  getMinMax3D := minMax3D

omit [Arithmetic α] in
theorem filter_zipIdx (cloud : List (Point α)) (held : Point α → Bool) :
    (cloud.zipIdx.filter fun entry => held entry.1).map Prod.fst = cloud.filter held := by
  calc (cloud.zipIdx.filter fun entry => held entry.1).map Prod.fst
      = (cloud.zipIdx.map Prod.fst).filter held := by rw [List.filter_map]; rfl
    _ = cloud.filter held := by rw [List.zipIdx_map_fst]

theorem points_indicesOf (tolerance : α) (cloud : List (Point α)) (seed : Point α) :
    points cloud (indicesOf tolerance cloud seed) = Components.groupOf (Near tolerance) cloud seed := by
  classical
  have found : ∀ entry ∈ cloud.zipIdx.filter (fun entry => Components.Linked (Near tolerance) cloud seed entry.1),
      ((cloud[·]?) ∘ Prod.snd) entry = some entry.1 :=
    fun entry member => List.mem_zipIdx_iff_getElem?.mp (List.mem_filter.mp member).1
  rw [points, indicesOf, List.filterMap_map, List.filterMap_congr found, List.filterMap_eq_map']
  exact filter_zipIdx cloud fun point => Components.Linked (Near tolerance) cloud seed point

theorem length_indicesOf (tolerance : α) (cloud : List (Point α)) (seed : Point α) :
    (indicesOf tolerance cloud seed).length = (Components.groupOf (Near tolerance) cloud seed).length := by
  classical
  have same := congrArg List.length (filter_zipIdx cloud fun point => Components.Linked (Near tolerance) cloud seed point)
  rwa [List.length_map, ← List.length_map Prod.snd] at same

theorem mem_exact {tolerance : α} {least most : Int} {cloud : List (Point α)} {indices : List Nat} :
    indices ∈ exact.extract tolerance least most cloud ↔
      (∃ seed ∈ cloud, indicesOf tolerance cloud seed = indices) ∧ least ≤ indices.length ∧ indices.length ≤ most := by
  simp [exact]

theorem exact_documented : (exact : Pcl α).Documented := by
  refine ⟨fun cluster => minMax3D_corners, ?_, ?_⟩
  · intro tolerance least most cloud once indices member
    obtain ⟨⟨seed, held, rfl⟩, small, large⟩ := mem_exact.mp member
    rw [points_indicesOf, ← length_indicesOf]
    exact ⟨Components.groupOf_group once held, small, large⟩
  · intro tolerance least most cloud once group whole small large
    obtain ⟨seed, held, same⟩ := whole.exists_groupOf once
    rw [← same.length_eq, ← length_indicesOf] at small large
    exact ⟨_, mem_exact.mpr ⟨⟨seed, held, rfl⟩, small, large⟩, points_indicesOf tolerance cloud seed ▸ same⟩

end Pcl

namespace VoxelGrid

def voxelOf (leafX leafY leafZ : α) (point : Point α) : Int × Int × Int :=
  (⌊point.x / leafX⌋, ⌊point.y / leafY⌋, ⌊point.z / leafZ⌋)

/-- Every field is averaged. -/
def centroid (points : List (PointXYZI α)) : PointXYZI α where
  x := mean (points.map (·.x))
  y := mean (points.map (·.y))
  z := mean (points.map (·.z))
  intensity := mean (points.map PointXYZI.intensity)

theorem centroid_axis (points : List (PointXYZI α)) (axis : Axis) :
    axis.of (centroid points).toPoint = mean (points.map fun point => axis.of point.toPoint) := by
  cases axis <;> rfl

/-- The points of a cloud in one voxel. -/
def inVoxel (leafX leafY leafZ : α) (cloud : List (PointXYZI α)) (voxel : Int × Int × Int) : List (PointXYZI α) :=
  cloud.filter fun point => voxelOf leafX leafY leafZ point.toPoint = voxel

/-- There is one centroid for each occupied voxel, in whatever order. -/
def Documented (grid : VoxelGrid α) : Prop :=
  ∀ leafX leafY leafZ cloud, 0 < leafX → 0 < leafY → 0 < leafZ → ∃ voxels : List (Int × Int × Int), voxels.Nodup ∧
    (∀ voxel, voxel ∈ voxels ↔ ∃ point ∈ cloud, voxelOf leafX leafY leafZ point.toPoint = voxel) ∧
    grid leafX leafY leafZ cloud = voxels.map fun voxel => centroid (inVoxel leafX leafY leafZ cloud voxel)

/-- The occupied voxels in the order of their first points. -/
def voxels (leafX leafY leafZ : α) (cloud : List (PointXYZI α)) : List (Int × Int × Int) :=
  (cloud.map fun point => voxelOf leafX leafY leafZ point.toPoint).dedup

def exact : VoxelGrid α := fun leafX leafY leafZ cloud =>
  (voxels leafX leafY leafZ cloud).map fun voxel => centroid (inVoxel leafX leafY leafZ cloud voxel)

theorem mem_voxels {leafX leafY leafZ : α} {cloud : List (PointXYZI α)} {voxel : Int × Int × Int} :
    voxel ∈ voxels leafX leafY leafZ cloud ↔
      ∃ point ∈ cloud, voxelOf leafX leafY leafZ point.toPoint = voxel := by
  simp [voxels]

theorem exact_documented : (exact : VoxelGrid α).Documented := by
  intro leafX leafY leafZ cloud _ _ _
  exact ⟨_, List.nodup_dedup _, fun voxel => mem_voxels, rfl⟩

/-- A centroid lies in the voxel it comes from. -/
theorem voxelOf_centroid {leafX leafY leafZ : α} {cloud : List (PointXYZI α)} {voxel : Int × Int × Int}
    (positiveX : 0 < leafX) (positiveY : 0 < leafY) (positiveZ : 0 < leafZ)
    (occupied : inVoxel leafX leafY leafZ cloud voxel ≠ []) :
    voxelOf leafX leafY leafZ (centroid (inVoxel leafX leafY leafZ cloud voxel)).toPoint = voxel := by
  have some (coordinate : PointXYZI α → α) : (inVoxel leafX leafY leafZ cloud voxel).map coordinate ≠ [] :=
    List.map_eq_nil_iff.not.mpr occupied
  have same (point : PointXYZI α) (held : point ∈ inVoxel leafX leafY leafZ cloud voxel) :
      voxelOf leafX leafY leafZ point.toPoint = voxel := of_decide_eq_true (List.mem_filter.mp held).2
  apply Prod.ext
  · apply floor_mean positiveX (some _)
    rw [List.forall_mem_map]
    intro point held
    exact congrArg Prod.fst (same point held)
  apply Prod.ext
  · apply floor_mean positiveY (some _)
    rw [List.forall_mem_map]
    intro point held
    exact congrArg (·.2.1) (same point held)
  · apply floor_mean positiveZ (some _)
    rw [List.forall_mem_map]
    intro point held
    exact congrArg (·.2.2) (same point held)

theorem inVoxel_ne_nil {leafX leafY leafZ : α} {cloud : List (PointXYZI α)} {voxel : Int × Int × Int}
    (occupied : voxel ∈ voxels leafX leafY leafZ cloud) : inVoxel leafX leafY leafZ cloud voxel ≠ [] := by
  obtain ⟨point, held, same⟩ := mem_voxels.mp occupied
  exact List.ne_nil_of_mem (List.mem_filter.mpr ⟨held, decide_eq_true same⟩)

theorem exact_nodup {leafX leafY leafZ : α} (positiveX : 0 < leafX) (positiveY : 0 < leafY) (positiveZ : 0 < leafZ)
    (cloud : List (PointXYZI α)) : ((exact leafX leafY leafZ cloud).map PointXYZI.toPoint).Nodup := by
  have back : ((exact leafX leafY leafZ cloud).map PointXYZI.toPoint).map (voxelOf leafX leafY leafZ) =
      voxels leafX leafY leafZ cloud := by
    rw [exact, List.map_map, List.map_map]
    apply Eq.trans _ (List.map_id _)
    apply List.map_congr_left
    intro voxel occupied
    exact voxelOf_centroid positiveX positiveY positiveZ (inVoxel_ne_nil occupied)
  apply List.Nodup.of_map (voxelOf leafX leafY leafZ)
  rw [back]
  exact List.nodup_dedup _

theorem Documented.perm {grid : VoxelGrid α} (documented : grid.Documented) {leafX leafY leafZ : α}
    (positiveX : 0 < leafX) (positiveY : 0 < leafY) (positiveZ : 0 < leafZ) (cloud : List (PointXYZI α)) :
    (grid leafX leafY leafZ cloud).Perm (exact leafX leafY leafZ cloud) := by
  obtain ⟨listed, once, occupied, same⟩ := documented leafX leafY leafZ cloud positiveX positiveY positiveZ
  rw [same]
  apply List.Perm.map
  apply (List.perm_ext_iff_of_nodup once (List.nodup_dedup _)).mpr
  intro voxel
  exact (occupied voxel).trans mem_voxels.symm

/-- Points that have a voxel each are left as they are. -/
theorem exact_apart {leafX leafY leafZ : α} {cloud : List (PointXYZI α)}
    (apart : (cloud.map fun point => voxelOf leafX leafY leafZ point.toPoint).Nodup) :
    exact leafX leafY leafZ cloud = cloud := by
  have alone (point : PointXYZI α) (held : point ∈ cloud) :
      centroid (inVoxel leafX leafY leafZ cloud (voxelOf leafX leafY leafZ point.toPoint)) = point := by
    have single : inVoxel leafX leafY leafZ cloud (voxelOf leafX leafY leafZ point.toPoint) = [point] := by
      apply List.perm_singleton.mp
      apply (List.perm_ext_iff_of_nodup ((List.Nodup.of_map _ apart).filter _) (List.nodup_singleton point)).mpr
      intro other
      simp only [List.mem_filter, decide_eq_true_eq, List.mem_singleton]
      constructor
      · exact fun ⟨there, same⟩ => List.inj_on_of_nodup_map apart there held same
      · intro same
        subst same
        exact ⟨held, rfl⟩
    simp [single, centroid]
  rw [exact, voxels, List.Nodup.dedup apart, List.map_map]
  exact (List.map_congr_left alone).trans (List.map_id cloud)

end VoxelGrid

/-- The points within the limits are kept, in their order. -/
def PassThrough.Documented (pass : PassThrough α) : Prop :=
  ∀ axis minVal maxVal cloud, pass axis minVal maxVal cloud =
    cloud.filter fun point => minVal ≤ axis.of point.toPoint && axis.of point.toPoint ≤ maxVal

namespace PclFilters

structure Documented (pclFilters : PclFilters α) : Prop where
  passThrough : pclFilters.passThrough.Documented
  voxelGrid : pclFilters.voxelGrid.Documented

def exact : PclFilters α where
  passThrough axis minVal maxVal cloud :=
    cloud.filter fun point => minVal ≤ axis.of point.toPoint && axis.of point.toPoint ≤ maxVal
  voxelGrid := .exact

theorem exact_voxelGrid : (exact : PclFilters α).voxelGrid = .exact := rfl

theorem exact_documented : (exact : PclFilters α).Documented := ⟨fun _ _ _ _ => rfl, VoxelGrid.exact_documented⟩

end PclFilters
end FlightStack
