import Mathlib.Analysis.InnerProductSpace.Basic
import Mathlib.Analysis.Convex.Segment

/-! The nearest point of a segment: the projection, held between the two ends. -/

namespace FlightStack
open scoped RealInnerProductSpace

universe u

/-- A segment by its start, a direction of length one, and how far it goes. -/
structure StraightPath (V : Type u) [NormedAddCommGroup V] [InnerProductSpace ℝ V] where
  start : V
  direction : V
  length : ℝ
  unit : ‖direction‖ = 1
  positive : 0 < length

namespace StraightPath
variable {V : Type u} [NormedAddCommGroup V] [InnerProductSpace ℝ V] (path : StraightPath V) (place : V)

def point (travelled : ℝ) : V := path.start + travelled • path.direction

def goal : V := path.point path.length

/-- How far along the nearest point lies. -/
noncomputable def progress : ℝ := max 0 (min ⟪place - path.start, path.direction⟫ path.length)

noncomputable def nearest : V := path.point (path.progress place)

/-- What leads from the nearest point to the place. -/
noncomputable def offset : V := place - path.nearest place

theorem progress_nonneg : 0 ≤ path.progress place := le_max_left _ _

theorem progress_le : path.progress place ≤ path.length := max_le path.positive.le (min_le_right _ _)

theorem mem_segment_iff {place : V} : place ∈ segment ℝ path.start path.goal ↔
    ∃ travelled, 0 ≤ travelled ∧ travelled ≤ path.length ∧ place = path.point travelled := by
  rw [segment_eq_image']
  constructor
  · intro member
    obtain ⟨part, within, rfl⟩ := member
    refine ⟨part * path.length, mul_nonneg within.1 path.positive.le, mul_le_of_le_one_left path.positive.le within.2, ?_⟩
    simp only [goal, point, add_sub_cancel_left, smul_smul]
  · intro found
    obtain ⟨travelled, low, high, rfl⟩ := found
    refine ⟨travelled / path.length, ⟨div_nonneg low path.positive.le, div_le_one_of_le₀ high path.positive.le⟩, ?_⟩
    simp only [goal, point, add_sub_cancel_left, smul_smul, div_mul_cancel₀ _ path.positive.ne']

theorem nearest_mem : path.nearest place ∈ segment ℝ path.start path.goal :=
  path.mem_segment_iff.mpr ⟨_, path.progress_nonneg place, path.progress_le place, rfl⟩

theorem inner_offset : ⟪path.offset place, path.direction⟫ =
    ⟪place - path.start, path.direction⟫ - path.progress place := by
  rw [offset, nearest, point, ← sub_sub, inner_sub_left, real_inner_smul_left, real_inner_self_eq_norm_sq, path.unit,
    one_pow, mul_one]

theorem offset_orthogonal (after : 0 < path.progress place) (before : path.progress place < path.length) :
    ⟪path.offset place, path.direction⟫ = 0 := by
  rw [inner_offset, sub_eq_zero]
  unfold progress at after before ⊢
  rcases le_total ⟪place - path.start, path.direction⟫ path.length with short | long
  · rw [min_eq_left short] at after ⊢
    rcases le_total ⟪place - path.start, path.direction⟫ 0 with back | ahead
    · exact absurd after (by rw [max_eq_left back]; exact lt_irrefl 0)
    · rw [max_eq_right ahead]
  · rw [min_eq_right long, max_eq_right path.positive.le] at before
    exact absurd before (lt_irrefl _)

/-- The offset points to no point of the path. -/
theorem offset_outward {travelled : ℝ} (low : 0 ≤ travelled) (high : travelled ≤ path.length) :
    (travelled - path.progress place) * ⟪path.offset place, path.direction⟫ ≤ 0 := by
  rcases (path.progress_nonneg place).eq_or_lt with begins | after
  · have behind : ⟪place - path.start, path.direction⟫ ≤ 0 := by
      have short : min ⟪place - path.start, path.direction⟫ path.length ≤ 0 := begins ▸ le_max_right _ _
      exact (min_le_iff.mp short).resolve_right (not_le.mpr path.positive)
    rw [inner_offset, ← begins, sub_zero, sub_zero]
    exact mul_nonpos_of_nonneg_of_nonpos low behind
  rcases (path.progress_le place).lt_or_eq with before | ends
  · rw [path.offset_orthogonal place after before, mul_zero]
  · have beyond : path.length ≤ ⟪place - path.start, path.direction⟫ := by
      have far : path.length ≤ max 0 (min ⟪place - path.start, path.direction⟫ path.length) := ends.ge
      exact ((le_max_iff.mp far).resolve_left (not_le.mpr path.positive)).trans (min_le_left _ _)
    rw [inner_offset, ends]
    exact mul_nonpos_of_nonpos_of_nonneg (sub_nonpos.mpr high) (sub_nonneg.mpr beyond)

/-- The way back from a point of the path, in its parts. -/
theorem sub_point (travelled : ℝ) :
    place - path.point travelled = path.offset place - (travelled - path.progress place) • path.direction := by
  rw [offset, nearest, point, point, sub_smul]
  abel

theorem goal_sub : path.goal - place = (path.length - path.progress place) • path.direction - path.offset place := by
  rw [← neg_sub, goal, sub_point, neg_sub]

theorem nearest_le {other : V} (member : other ∈ segment ℝ path.start path.goal) :
    dist place (path.nearest place) ≤ dist place other := by
  obtain ⟨travelled, low, high, rfl⟩ := path.mem_segment_iff.mp member
  have outward := path.offset_outward place low high
  rw [dist_eq_norm, dist_eq_norm, ← sq_le_sq₀ (norm_nonneg _) (norm_nonneg _)]
  calc ‖path.offset place‖ ^ 2
      ≤ ‖path.offset place‖ ^ 2 - 2 * ((travelled - path.progress place) * ⟪path.offset place, path.direction⟫) := by
        linarith
    _ ≤ ‖path.offset place - (travelled - path.progress place) • path.direction‖ ^ 2 := by
        rw [norm_sub_sq_real, real_inner_smul_right]
        exact le_add_of_nonneg_right (sq_nonneg _)
    _ = ‖place - path.point travelled‖ ^ 2 := by rw [sub_point]

end StraightPath
end FlightStack
