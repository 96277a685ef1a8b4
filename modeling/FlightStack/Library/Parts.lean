import FlightStack.Library.Machine

/-! A part of a machine: its runs contain the runs of the part, with what the part is
told and what it answers. -/

namespace FlightStack.Machine

universe u v w x y z

variable {σ : Type u} {ε : Type v} {ο : Type w} {τ : Type x} {δ : Type y} {ρ : Type z}

structure Part (whole : Machine σ ε ο) (part : Machine τ δ ρ) (view : σ → τ) (told : Entry σ ε ο → List δ)
    (said : ο → List ρ) : Prop where
  initial : view whole.initial = part.initial
  step : ∀ {entry : Entry σ ε ο}, whole.step entry.before entry.event = some (entry.after, entry.outputs) →
    ∃ moves, part.Path (view entry.before) moves (view entry.after) ∧ moves.map Entry.event = told entry ∧
      moves.flatMap Entry.outputs = entry.outputs.flatMap said

namespace Part
variable {whole : Machine σ ε ο} {part : Machine τ δ ρ} {view : σ → τ} {told : Entry σ ε ο → List δ} {said : ο → List ρ}

theorem path (inside : Part whole part view told said) {start final : σ} {history : List (Entry σ ε ο)}
    (path : whole.Path start history final) : ∃ moves, part.Path (view start) moves (view final) ∧
      moves.map Entry.event = history.flatMap told ∧
      moves.flatMap Entry.outputs = (history.flatMap Entry.outputs).flatMap said := by
  induction path with
  | refl => exact ⟨[], .refl, rfl, rfl⟩
  | snoc _ taken ih =>
    obtain ⟨moves, before, events, outputs⟩ := ih
    obtain ⟨more, next, told, said⟩ := inside.step (show whole.step (Entry.before ⟨_, _, _, _⟩) _ = some (Entry.after _, Entry.outputs _) from taken)
    refine ⟨moves ++ more, before.append next, ?_, ?_⟩
    · rw [List.map_append, events, told, List.flatMap_append, List.flatMap_singleton]
    · rw [List.flatMap_append, outputs, said, List.flatMap_append, List.flatMap_append, List.flatMap_singleton]

theorem run (inside : Part whole part view told said) {final : σ} {history : List (Entry σ ε ο)}
    (run : whole.Run history final) : ∃ moves, part.Run moves (view final) ∧
      moves.map Entry.event = history.flatMap told ∧
      moves.flatMap Entry.outputs = (history.flatMap Entry.outputs).flatMap said := by
  obtain ⟨moves, path, rest⟩ := inside.path run
  exact ⟨moves, by rwa [inside.initial] at path, rest⟩

end Part

/-- No step and one step of a part -/
theorem unmoved (part : Machine τ δ ρ) (state : τ) : ∃ moves : List (Entry τ δ ρ), part.Path state moves state ∧
    moves.map Entry.event = [] ∧ moves.flatMap Entry.outputs = [] :=
  ⟨[], .refl, rfl, rfl⟩

theorem moved {part : Machine τ δ ρ} {state after : τ} {event : δ} {outputs : List ρ}
    (taken : part.step state event = some (after, outputs)) : ∃ moves : List (Entry τ δ ρ),
      part.Path state moves after ∧ moves.map Entry.event = [event] ∧ moves.flatMap Entry.outputs = outputs :=
  ⟨_, Path.refl.snoc taken, rfl, by simp⟩

end FlightStack.Machine
