import Mathlib.Algebra.Order.Floor.Ring
import Mathlib.Analysis.SpecialFunctions.Trigonometric.Basic

/-! The numbers of the C++ sources, with `double` and `float` read as exact
ordered fields. A value that is not a number has no counterpart here. -/

namespace FlightStack

/-- An ordered field with the functions the sources take from `<cmath>`. -/
class Arithmetic (α : Type) extends Field α, LinearOrder α, IsStrictOrderedRing α, FloorRing α where
  sqrt : α → α
  sin : α → α
  cos : α → α
  /-- `M_PI` -/
  pi : α
  pi_pos : 0 < pi

export Arithmetic (sqrt sin cos pi)

noncomputable instance : Arithmetic ℝ where
  sqrt := Real.sqrt
  sin := Real.sin
  cos := Real.cos
  pi := Real.pi
  pi_pos := Real.pi_pos

variable {α : Type} [Arithmetic α]

/-! The numerals that several modules use. With instances of their own they are the
same terms everywhere. -/

instance two_atLeastTwo : Nat.AtLeastTwo 2 := ⟨le_rfl⟩

instance seven_atLeastTwo : Nat.AtLeastTwo 7 := ⟨by decide⟩

instance ten_atLeastTwo : Nat.AtLeastTwo 10 := ⟨by decide⟩

instance hundred_atLeastTwo : Nat.AtLeastTwo 100 := ⟨by decide⟩

instance thousand_atLeastTwo : Nat.AtLeastTwo 1000 := ⟨by decide⟩

/-- `std::clamp` -/
def clamp (value low high : α) : α := if value < low then low else if high < value then high else value

private theorem turns_lt {excess : α} (above : 0 < excess) :
    ⌈(excess - 2 * pi) / (2 * pi)⌉₊ < ⌈excess / (2 * pi)⌉₊ := by
  have turn : (0 : α) < 2 * pi := mul_pos two_pos Arithmetic.pi_pos
  have ceiling : 0 < ⌈excess / (2 * pi)⌉₊ := Nat.ceil_pos.mpr (div_pos above turn)
  rw [sub_div, div_self turn.ne', Nat.ceil_sub_one]
  omega

/-- `while (diff > M_PI) diff -= 2 * M_PI;` -/
def wrapDown (diff : α) : α := if pi < diff then wrapDown (diff - 2 * pi) else diff
termination_by ⌈(diff - pi) / (2 * pi)⌉₊
decreasing_by
  rename_i above
  rw [sub_right_comm]
  exact turns_lt (sub_pos.mpr above)

/-- `while (diff < -M_PI) diff += 2 * M_PI;` -/
def wrapUp (diff : α) : α := if diff < -pi then wrapUp (diff + 2 * pi) else diff
termination_by ⌈(-pi - diff) / (2 * pi)⌉₊
decreasing_by
  rename_i below
  rw [sub_add_eq_sub_sub]
  exact turns_lt (sub_pos.mpr below)

end FlightStack
