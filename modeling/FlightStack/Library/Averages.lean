import Mathlib.Algebra.Order.BigOperators.Group.List
import Mathlib.Algebra.Order.Field.Basic
import Mathlib.Algebra.Order.Floor.Ring
import Mathlib.Algebra.BigOperators.Group.List.Lemmas
import Mathlib.Tactic.FieldSimp
import Mathlib.Tactic.Ring

/-! The mean of a list of numbers lies between its bounds. -/

namespace FlightStack

universe u
variable {α : Type u} [Field α]

def mean (values : List α) : α := values.sum / values.length

theorem mean_perm {values others : List α} (same : values.Perm others) : mean values = mean others := by
  rw [mean, mean, same.sum_eq, same.length_eq]

@[simp] theorem mean_singleton (value : α) : mean [value] = value := by simp [mean]

@[simp] theorem mean_nil : mean ([] : List α) = 0 := by simp [mean]

/-- One more value moves the mean by its share of the difference. -/
theorem mean_concat [CharZero α] (values : List α) (value : α) :
    mean (values ++ [value]) = mean values + (value - mean values) / (values.length + 1 : Nat) := by
  rcases List.eq_nil_or_concat values with rfl | ⟨shorter, last, rfl⟩
  · simp
  · have count : (((shorter.concat last).length : Nat) : α) ≠ 0 := by simp [Nat.cast_add_one_ne_zero]
    have more : (((shorter.concat last).length : Nat) : α) + 1 ≠ 0 := Nat.cast_add_one_ne_zero _
    simp only [mean, List.sum_append, List.sum_singleton, List.length_append, List.length_singleton, Nat.cast_add, Nat.cast_one]
    field_simp
    ring

variable [LinearOrder α] [IsStrictOrderedRing α] {values : List α} {bound : α}

/-- No list lies wholly to one side of its mean. -/
theorem exists_le_mean (some : values ≠ []) : ∃ value ∈ values, value ≤ mean values := by
  by_contra above
  have count : (0 : α) < values.length := Nat.cast_pos.mpr (List.length_pos_of_ne_nil some)
  obtain ⟨first, member⟩ := List.exists_mem_of_ne_nil values some
  have far (value : α) (held : value ∈ values) : mean values < value := not_le.mp fun low => above ⟨value, held, low⟩
  have total := List.sum_lt_sum (fun _ => mean values) id (fun value held => (far value held).le)
    ⟨first, member, far first member⟩
  rw [List.map_id, List.map_const', List.sum_replicate, nsmul_eq_mul, mul_comm] at total
  exact absurd total (not_lt.mpr (div_mul_cancel₀ values.sum count.ne').ge)

theorem exists_mean_le (some : values ≠ []) : ∃ value ∈ values, mean values ≤ value := by
  by_contra below
  have count : (0 : α) < values.length := Nat.cast_pos.mpr (List.length_pos_of_ne_nil some)
  obtain ⟨first, member⟩ := List.exists_mem_of_ne_nil values some
  have far (value : α) (held : value ∈ values) : value < mean values := not_le.mp fun high => below ⟨value, held, high⟩
  have total := List.sum_lt_sum id (fun _ => mean values) (fun value held => (far value held).le)
    ⟨first, member, far first member⟩
  rw [List.map_id, List.map_const', List.sum_replicate, nsmul_eq_mul, mul_comm] at total
  exact absurd total (not_lt.mpr (div_mul_cancel₀ values.sum count.ne').le)

theorem le_mean (some : values ≠ []) (below : ∀ value ∈ values, bound ≤ value) : bound ≤ mean values := by
  obtain ⟨value, held, low⟩ := exists_le_mean some
  exact (below value held).trans low

theorem mean_le (some : values ≠ []) (above : ∀ value ∈ values, value ≤ bound) : mean values ≤ bound := by
  obtain ⟨value, held, high⟩ := exists_mean_le some
  exact high.trans (above value held)

/-- Two means differ by less than the numbers do. -/
theorem mean_sub_lt {others : List α} (some : values ≠ []) (more : others ≠ [])
    (close : ∀ value ∈ values, ∀ other ∈ others, value - other < bound) : mean values - mean others < bound := by
  obtain ⟨value, held, high⟩ := exists_mean_le some
  obtain ⟨other, there, low⟩ := exists_le_mean more
  exact (sub_le_sub high low).trans_lt (close value held other there)

/-- Numbers from one cell have their mean in it. -/
theorem floor_mean [FloorRing α] {leaf : α} {cell : Int} (positive : 0 < leaf) (some : values ≠ [])
    (inside : ∀ value ∈ values, ⌊value / leaf⌋ = cell) : ⌊mean values / leaf⌋ = cell := by
  have bounds (value : α) (held : value ∈ values) := Int.floor_eq_iff.mp (inside value held)
  obtain ⟨first, there, low⟩ := exists_le_mean some
  obtain ⟨last, held, high⟩ := exists_mean_le some
  rw [Int.floor_eq_iff]
  constructor
  · exact (bounds first there).1.trans (div_le_div_of_nonneg_right low positive.le)
  · exact (div_le_div_of_nonneg_right high positive.le).trans_lt (bounds last held).2

end FlightStack
