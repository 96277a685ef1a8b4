import FlightStack.Library.Machine

/-! Two machines that take the same events in step and answer each of them alike. -/

namespace FlightStack.Machine

universe u v w x

variable {σ : Type u} {ε : Type v} {ο : Type w} {τ : Type x}

/-- What a machine answers to some events, unless it refuses one. -/
def answers (machine : Machine σ ε ο) : σ → List ε → Option (List (List ο))
  | _, [] => some []
  | state, event :: events =>
    (machine.step state event).bind fun taken => (machine.answers taken.1 events).map (taken.2 :: ·)

/-- The steps that some events lead through, unless one is refused. -/
def record (machine : Machine σ ε ο) : σ → List ε → Option (List (Entry σ ε ο) × σ)
  | state, [] => some ([], state)
  | state, event :: events =>
    (machine.step state event).bind fun taken =>
      (machine.record taken.1 events).map fun rest => (⟨state, event, taken.2, taken.1⟩ :: rest.1, rest.2)

theorem path_of_record {machine : Machine σ ε ο} {start final : σ} {events : List ε} {history : List (Entry σ ε ο)}
    (recorded : machine.record start events = some (history, final)) : machine.Path start history final := by
  induction events generalizing start history with
  | nil =>
    cases recorded
    exact .refl
  | cons event events ih =>
    obtain ⟨⟨middle, outputs⟩, taken, later⟩ := Option.bind_eq_some_iff.mp recorded
    obtain ⟨⟨rest, last⟩, more, same⟩ := Option.map_eq_some_iff.mp later
    obtain ⟨rfl, rfl⟩ := Prod.mk.inj same
    exact .cons taken (ih more)

structure LockStep (concrete : Machine σ ε ο) (abstract : Machine τ ε ο) (related : σ → τ → Prop) : Prop where
  initial : related concrete.initial abstract.initial
  step : ∀ {state seen} (event : ε), related state seen → ∃ after outputs seenAfter,
    concrete.step state event = some (after, outputs) ∧ abstract.step seen event = some (seenAfter, outputs) ∧
      related after seenAfter

namespace LockStep
variable {concrete : Machine σ ε ο} {abstract : Machine τ ε ο} {related : σ → τ → Prop}

theorem answers_from (alike : LockStep concrete abstract related) {state : σ} {seen : τ} (begun : related state seen)
    (events : List ε) :
    ∃ answers, concrete.answers state events = some answers ∧ abstract.answers seen events = some answers := by
  induction events generalizing state seen with
  | nil => exact ⟨[], rfl, rfl⟩
  | cons event events ih =>
    obtain ⟨after, outputs, seenAfter, taken, matched, kept⟩ := alike.step event begun
    obtain ⟨rest, same, equal⟩ := ih kept
    refine ⟨outputs :: rest, ?_, ?_⟩
    · rw [Machine.answers, taken, Option.bind_some, same, Option.map_some]
    · rw [Machine.answers, matched, Option.bind_some, equal, Option.map_some]

theorem answers (alike : LockStep concrete abstract related) (events : List ε) :
    ∃ answers, concrete.answers concrete.initial events = some answers ∧
      abstract.answers abstract.initial events = some answers :=
  alike.answers_from alike.initial events

end LockStep
end FlightStack.Machine
