import Mathlib.Data.List.Basic

/-! Names handed out by a counter. Users may give their names up in any order, but
a name is never given out again. -/

namespace FlightStack

/-- The names in use, and the one that is given out next. -/
structure Register where
  live : List Nat
  next : Nat

namespace Register

structure Sound (register : Register) : Prop where
  ordered : register.live.Pairwise (· < ·)
  given : ∀ name ∈ register.live, name < register.next

def Step (before after : Register) : Prop :=
  ∃ kept count, List.Sublist kept before.live ∧ after.live = kept ++ List.range' before.next count ∧
    after.next = before.next + count

/-- What any number of steps leads to: old names that are in use have always been. -/
def Later (before after : Register) : Prop :=
  before.next ≤ after.next ∧ ∀ name < before.next, name ∈ after.live → name ∈ before.live

variable {before middle after : Register}

theorem Step.idle (register : Register) : Step register register :=
  ⟨register.live, 0, List.Sublist.refl _, by simp, rfl⟩

theorem Step.sound (step : Step before after) (sound : Sound before) : Sound after := by
  obtain ⟨kept, count, sublist, live, next⟩ := step
  constructor
  · rw [live, List.pairwise_append]
    refine ⟨sound.ordered.sublist sublist, List.pairwise_lt_range', fun old held new fresh => ?_⟩
    exact Nat.lt_of_lt_of_le (sound.given old (sublist.subset held)) (List.left_le_of_mem_range' fresh)
  · intro name held
    rw [live, List.mem_append] at held
    rcases held with old | new
    · have := sound.given name (sublist.subset old)
      omega
    · have := (List.mem_range'_1.mp new).2
      omega

theorem Later.refl (register : Register) : Later register register :=
  ⟨Nat.le_refl _, fun _ _ held => held⟩

theorem Later.trans (first : Later before middle) (last : Later middle after) : Later before after :=
  ⟨Nat.le_trans first.1 last.1, fun name old held => first.2 name old (last.2 name (Nat.lt_of_lt_of_le old first.1) held)⟩

theorem Step.later (step : Step before after) : Later before after := by
  obtain ⟨kept, count, sublist, live, next⟩ := step
  refine ⟨next ▸ Nat.le_add_right _ _, fun name old held => ?_⟩
  rw [live, List.mem_append] at held
  rcases held with kept | new
  · exact sublist.subset kept
  · exact absurd (List.left_le_of_mem_range' new) (Nat.not_le.mpr old)

end Register
end FlightStack
