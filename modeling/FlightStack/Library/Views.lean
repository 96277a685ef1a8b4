import FlightStack.Library.Machine

/-! Machines that look alike. Where each step of two machines is, seen from its own
place, the same step of a third, nothing in their outputs tells them apart. -/

namespace FlightStack

universe u v w u' v' w' x y z
variable {σ : Type u} {ε : Type v} {ο : Type w} {τ : Type u'} {δ : Type v'} {ρ : Type w'}

/-- A view of the states, the events and the outputs of a machine. -/
structure View (σ : Type u) (ε : Type v) (ο : Type w) (τ : Type u') (δ : Type v') (ρ : Type w') where
  state : σ → τ
  event : ε → δ
  output : ο → ρ

def View.entry (view : View σ ε ο τ δ ρ) (entry : Entry σ ε ο) : Entry τ δ ρ :=
  ⟨view.state entry.before, view.event entry.event, entry.outputs.map view.output, view.state entry.after⟩

/-- Under the view each step of the machine is one of the other. -/
def View.Shows (view : View σ ε ο τ δ ρ) (machine : Machine σ ε ο) (seen : Machine τ δ ρ) : Prop :=
  ∀ {before event after outputs}, machine.step before event = some (after, outputs) →
    seen.step (view.state before) (view.event event) = some (view.state after, outputs.map view.output)

namespace Machine

theorem Path.seen {machine : Machine σ ε ο} {seen : Machine τ δ ρ} {view : View σ ε ο τ δ ρ}
    (shows : view.Shows machine seen) {start final : σ} {history : List (Entry σ ε ο)}
    (path : machine.Path start history final) :
    seen.Path (view.state start) (history.map view.entry) (view.state final) := by
  induction path with
  | refl => exact .refl
  | snoc earlier taken ih =>
    rw [List.map_append]
    exact ih.snoc (shows taken)

/-- What a machine does is settled by what it is asked. -/
theorem Path.settled {machine : Machine σ ε ο} {start final last : σ} {history other : List (Entry σ ε ο)}
    (first : machine.Path start history final) (second : machine.Path start other last)
    (same : history.map Entry.event = other.map Entry.event) : history = other ∧ final = last := by
  induction first generalizing other last with
  | refl =>
    obtain rfl := List.map_eq_nil_iff.mp same.symm
    exact ⟨rfl, second.stays.symm⟩
  | @snoc state after history event outputs earlier taken ih =>
    cases second with
    | refl => simp at same
    | @snoc state' after' history' event' outputs' earlier' taken' =>
      rw [List.map_append, List.map_append] at same
      obtain ⟨before, now⟩ := List.append_inj' same rfl
      obtain ⟨rfl, rfl⟩ := ih earlier' before
      obtain rfl := List.singleton_inj.mp now
      cases taken.symm.trans taken'
      exact ⟨rfl, rfl⟩

/-- Two runs of machines that show the same one, from states that look alike and over
events that look alike, have outputs that look alike. -/
theorem Path.alike {σ' : Type x} {ε' : Type y} {ο' : Type z} {machine : Machine σ ε ο} {other : Machine σ' ε' ο'}
    {seen : Machine τ δ ρ} {view : View σ ε ο τ δ ρ} {view' : View σ' ε' ο' τ δ ρ}
    (shows : view.Shows machine seen) (shows' : view'.Shows other seen)
    {start final : σ} {history : List (Entry σ ε ο)} (path : machine.Path start history final)
    {start' final' : σ'} {history' : List (Entry σ' ε' ο')} (path' : other.Path start' history' final')
    (starts : view.state start = view'.state start')
    (events : history.map (fun entry => view.event entry.event) = history'.map fun entry => view'.event entry.event) :
    history.map (fun entry => entry.outputs.map view.output) =
      history'.map fun entry => entry.outputs.map view'.output := by
  have second := path'.seen shows'
  rw [← starts] at second
  obtain ⟨same, _⟩ := (path.seen shows).settled second (by
    rw [List.map_map, List.map_map]
    exact events)
  have outputs := congrArg (List.map Entry.outputs) same
  rw [List.map_map, List.map_map] at outputs
  exact outputs

end Machine
end FlightStack
