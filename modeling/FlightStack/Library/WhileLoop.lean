import Mathlib.Algebra.Field.ModEq
import Mathlib.Algebra.Order.Group.Abs
import Mathlib.Algebra.Order.Field.Basic
import Mathlib.Tactic.Linarith

/-! While loops as they run, round by round, and the loops that take a period off a
number or put it on until the number is small. -/

namespace FlightStack

universe u v

/-- `while (test) body` leads from one state to another in so many rounds. A loop
that does not end leads nowhere. -/
inductive Loop {σ : Type u} (test : σ → Prop) (body : σ → σ) : σ → Nat → σ → Prop where
  | stop {state : σ} (fails : ¬ test state) : Loop test body state 0 state
  | round {state final : σ} {count : Nat} (passes : test state) (rest : Loop test body (body state) count final) :
      Loop test body state (count + 1) final

namespace Loop
variable {σ : Type u} {test : σ → Prop} {body : σ → σ} {start final : σ} {count : Nat}

theorem exit (loop : Loop test body start count final) : ¬ test final := by
  induction loop with
  | stop fails => exact fails
  | round _ _ ih => exact ih

theorem invariant (loop : Loop test body start count final) (holds : σ → Prop)
    (preserved : ∀ state, test state → holds state → holds (body state)) (initial : holds start) : holds final := by
  induction loop with
  | stop => exact initial
  | round passes _ ih => exact ih (preserved _ passes initial)

theorem unique {other : σ} {rounds : Nat} (loop : Loop test body start count final)
    (again : Loop test body start rounds other) : count = rounds ∧ final = other := by
  induction loop generalizing rounds with
  | stop fails =>
    cases again with
    | stop => exact ⟨rfl, rfl⟩
    | round passes => exact absurd passes fails
  | round passes _ ih =>
    cases again with
    | stop fails => exact absurd passes fails
    | round _ rest =>
      obtain ⟨same, equal⟩ := ih rest
      exact ⟨congrArg (· + 1) same, equal⟩

/-- A loop seen through a view of its states is the loop that tests and does the same there. -/
theorem seen {τ : Type v} {tested : τ → Prop} {does : τ → τ} (view : σ → τ) (loop : Loop test body start count final)
    (tests : ∀ state, tested (view state) ↔ test state) (bodies : ∀ state, does (view state) = view (body state)) :
    Loop tested does (view start) count (view final) := by
  induction loop with
  | stop fails => exact .stop ((tests _).not.mpr fails)
  | round passes _ ih =>
    apply Loop.round ((tests _).mpr passes)
    rw [bodies]
    exact ih

end Loop

section Period
variable {α : Type u} [Field α] {test : α → Prop} {body : α → α} {start final period : α} {count : Nat}

/-- Rounds that change a number by multiples of a period leave what it is modulo the period. -/
theorem Loop.congruent (loop : Loop test body start count final)
    (walks : ∀ value, body value ≡ value [PMOD period]) : final ≡ start [PMOD period] := by
  apply loop.invariant (fun value => value ≡ start [PMOD period])
  · intro value _ same
    exact (walks value).trans same
  · exact AddCommGroup.modEq_rfl

variable [LinearOrder α] [IsStrictOrderedRing α]

/-- A number of at most half a period is the least of those congruent to it. -/
theorem abs_le_of_modEq {least value : α} (half : |least| + |least| ≤ period) (same : value ≡ least [PMOD period]) :
    |least| ≤ |value| := by
  obtain ⟨turns, apart⟩ := AddCommGroup.modEq_iff_zsmul'.mp same
  by_cases none : turns = 0
  · rw [none, zero_zsmul, sub_eq_zero] at apart
    rw [apart]
  · have positive : 0 ≤ period := (add_nonneg (abs_nonneg least) (abs_nonneg least)).trans half
    have whole : (1 : α) ≤ |(turns : α)| := by
      rw [← Int.cast_abs]
      exact_mod_cast Int.one_le_abs none
    have far : period ≤ |least - value| := by
      rw [apart, zsmul_eq_mul, abs_mul, abs_of_nonneg positive]
      exact le_mul_of_one_le_left positive whole
    have near := abs_sub least value
    linarith

end Period
end FlightStack
