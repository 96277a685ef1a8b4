import Mathlib.Data.Bool.Basic

/-! A flag that keeps a client from repeating a request while an answer is
still on its way. The flag and the number of unanswered requests can only drift
apart when one of them moves without the other. -/

namespace FlightStack

structure RequestGuard where
  raised : Bool
  outstanding : Nat

namespace RequestGuard

inductive Move where
  /-- Neither the flag nor the requests change. -/
  | idle
  /-- A request leaves while the flag is down, and raises it. -/
  | send
  /-- An answer arrives and lowers the flag. -/
  | settle
  /-- An answer arrives and the flag stays as it is. -/
  | retain
  /-- The flag is lowered without an answer. -/
  | drop
  deriving DecidableEq

inductive Step : RequestGuard → Move → RequestGuard → Prop where
  | idle (guard : RequestGuard) : Step guard .idle guard
  | send (count : Nat) : Step ⟨false, count⟩ .send ⟨true, count + 1⟩
  | settle (raised : Bool) (count : Nat) : Step ⟨raised, count + 1⟩ .settle ⟨false, count⟩
  | retain (raised : Bool) (count : Nat) : Step ⟨raised, count + 1⟩ .retain ⟨raised, count⟩
  | drop (raised : Bool) (count : Nat) : Step ⟨raised, count⟩ .drop ⟨false, count⟩

variable {before after : RequestGuard} {move : Move}

/-- The flag is up exactly while one request is unanswered. -/
def Exact (guard : RequestGuard) : Prop := guard.outstanding = guard.raised.toNat

/-- At most one request is unanswered, and only while the flag is up. -/
def Single (guard : RequestGuard) : Prop := guard.outstanding ≤ guard.raised.toNat

theorem Exact.iff (exact : Exact before) :
    (before.raised = true ↔ before.outstanding = 1) ∧ before.outstanding ≤ 1 := by
  rw [Exact] at exact
  cases raised : before.raised <;> simp [raised] at exact <;> simp [exact]

theorem Single.le_one (single : Single before) : before.outstanding ≤ 1 :=
  Nat.le_trans single (Bool.toNat_le _)

theorem Step.exact (step : Step before move after) (answered : move ≠ .retain) (kept : move ≠ .drop)
    (exact : Exact before) : Exact after := by
  cases step with
  | idle => exact exact
  | send count => simp_all [Exact]
  | settle raised count => cases raised <;> simp_all [Exact]
  | retain => exact absurd rfl answered
  | drop => exact absurd rfl kept

/-- Retained flags only make the guard stricter. The guard can fail only through
a flag that is dropped while a request is unanswered. -/
theorem Step.single (step : Step before move after) (settled : move = .drop → before.outstanding = 0)
    (single : Single before) : Single after := by
  cases step with
  | idle => exact single
  | send count => simp_all [Single]
  | settle raised count | retain raised count => cases raised <;> simp_all [Single]
  | drop raised count => simp_all [Single]

theorem Step.lowered (step : Step before move after) (up : before.raised = true) (down : after.raised ≠ true) :
    move = .settle ∨ move = .drop := by
  cases step with
  | idle | retain => exact absurd up down
  | send => cases up
  | settle => exact .inl rfl
  | drop => exact .inr rfl

theorem Step.idle_eq (step : Step before .idle after) : after = before := by
  cases step
  rfl

theorem Step.sent (step : Step before .send after) :
    before.raised = false ∧ after.raised = true ∧ after.outstanding = before.outstanding + 1 := by
  cases step with
  | send => exact ⟨rfl, rfl, rfl⟩

end RequestGuard
end FlightStack
