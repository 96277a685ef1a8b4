/-! Machines that answer an event with outputs or refuse it, and the finite
paths they execute. A path keeps every step it took, so a claim about the past
is a claim about that history and needs no ghost state in the machine. -/

namespace FlightStack

universe u v w x

structure Machine (σ : Type u) (ε : Type v) (ο : Type w) where
  initial : σ
  step : σ → ε → Option (σ × List ο)

structure Entry (σ : Type u) (ε : Type v) (ο : Type w) where
  before : σ
  event : ε
  outputs : List ο
  after : σ

namespace Machine
variable {σ : Type u} {ε : Type v} {ο : Type w} (machine : Machine σ ε ο)

/-- The finite executions of a machine. New steps are recorded at the end. -/
inductive Path (start : σ) : List (Entry σ ε ο) → σ → Prop where
  | refl : Path start [] start
  | snoc {state after : σ} {history : List (Entry σ ε ο)} {event : ε} {outputs : List ο}
      (earlier : Path start history state) (taken : machine.step state event = some (after, outputs)) :
      Path start (history ++ [⟨state, event, outputs, after⟩]) after

abbrev Run (history : List (Entry σ ε ο)) (state : σ) : Prop := machine.Path machine.initial history state

variable {machine}

theorem Path.stays {start final : σ} (path : machine.Path start [] final) : final = start := by
  generalize nothing : [] = history at path
  cases path with
  | refl => rfl
  | snoc => simp at nothing

theorem Path.append {start middle final : σ} {first rest : List (Entry σ ε ο)}
    (earlier : machine.Path start first middle) (later : machine.Path middle rest final) :
    machine.Path start (first ++ rest) final := by
  induction later with
  | refl => simpa using earlier
  | snoc _ taken ih => simpa only [List.append_assoc] using ih.snoc taken

theorem Path.cons {start middle final : σ} {event : ε} {outputs : List ο} {rest : List (Entry σ ε ο)}
    (taken : machine.step start event = some (middle, outputs)) (later : machine.Path middle rest final) :
    machine.Path start (⟨start, event, outputs, middle⟩ :: rest) final :=
  Path.append (Path.refl.snoc taken) later

theorem Path.split {start final : σ} {first rest : List (Entry σ ε ο)}
    (path : machine.Path start (first ++ rest) final) :
    ∃ middle, machine.Path start first middle ∧ machine.Path middle rest final := by
  generalize whole : first ++ rest = history at path
  induction path generalizing rest with
  | refl =>
    obtain ⟨rfl, rfl⟩ := List.append_eq_nil_iff.mp whole
    exact ⟨start, .refl, .refl⟩
  | @snoc state after history event outputs earlier taken ih =>
    rcases List.eq_nil_or_concat rest with rfl | ⟨shorter, last, rfl⟩
    · rw [List.append_nil] at whole
      exact ⟨after, whole ▸ earlier.snoc taken, .refl⟩
    · rw [List.concat_eq_append, ← List.append_assoc] at whole
      obtain ⟨same, equal⟩ := List.append_inj' whole rfl
      obtain ⟨middle, before, between⟩ := ih same
      rw [List.concat_eq_append, List.singleton_inj.mp equal]
      exact ⟨middle, before, between.snoc taken⟩

theorem Path.entry {start final : σ} {past : List (Entry σ ε ο)} {entry : Entry σ ε ο}
    {future : List (Entry σ ε ο)} (path : machine.Path start (past ++ entry :: future) final) :
    machine.Path start past entry.before ∧
      machine.step entry.before entry.event = some (entry.after, entry.outputs) ∧
      machine.Path entry.after future final := by
  obtain ⟨middle, through, later⟩ := (List.append_cons past entry future ▸ path).split
  generalize whole : past ++ [entry] = history at through
  cases through with
  | refl => simp at whole
  | snoc earlier taken =>
    obtain ⟨rfl, equal⟩ := List.append_inj' whole rfl
    obtain rfl := List.singleton_inj.mp equal
    exact ⟨earlier, taken, later⟩

/-- Two steps of a path, and the path from the one to the other. -/
theorem Path.between {start final : σ} {past between future : List (Entry σ ε ο)} {first second : Entry σ ε ο}
    (path : machine.Path start (past ++ first :: between ++ second :: future) final) :
    machine.Path start past first.before ∧
      machine.step first.before first.event = some (first.after, first.outputs) ∧
      machine.Path first.after between second.before ∧
      machine.step second.before second.event = some (second.after, second.outputs) := by
  rw [List.append_assoc, List.cons_append] at path
  obtain ⟨reached, taken, later⟩ := path.entry
  obtain ⟨through, again, _⟩ := later.entry
  exact ⟨reached, taken, through, again⟩

theorem Path.mem {start final : σ} {history : List (Entry σ ε ο)} {entry : Entry σ ε ο}
    (path : machine.Path start history final) (member : entry ∈ history) :
    ∃ past future, history = past ++ entry :: future ∧ machine.Path start past entry.before ∧
      machine.step entry.before entry.event = some (entry.after, entry.outputs) ∧
      machine.Path entry.after future final := by
  obtain ⟨past, future, rfl⟩ := List.append_of_mem member
  exact ⟨past, future, rfl, path.entry⟩

theorem Path.taken {start final : σ} {history : List (Entry σ ε ο)} {entry : Entry σ ε ο}
    (path : machine.Path start history final) (member : entry ∈ history) :
    machine.step entry.before entry.event = some (entry.after, entry.outputs) := by
  obtain ⟨_, _, _, _, taken, _⟩ := path.mem member
  exact taken

/-- The invariant rule. The step may use that it was recorded, so a condition on
all steps of a history is available where the invariant is carried across one. -/
theorem Path.invariant {start final : σ} {history : List (Entry σ ε ο)}
    (path : machine.Path start history final) (holds : σ → Prop) (initial : holds start)
    (preserved : ∀ entry ∈ history, machine.step entry.before entry.event = some (entry.after, entry.outputs) →
      holds entry.before → holds entry.after) : holds final := by
  induction path with
  | refl => exact initial
  | snoc earlier taken ih =>
    refine preserved _ List.mem_concat_self taken (ih ?_)
    exact fun entry member => preserved entry (List.mem_append_left _ member)

/-- Every step of a path is of the kind that the steps from good states are, where
those lead to good states. -/
theorem Path.each {start final : σ} {history : List (Entry σ ε ο)} (path : machine.Path start history final)
    (holds : σ → Prop) (initial : holds start) (kind : Entry σ ε ο → Prop)
    (steps : ∀ entry : Entry σ ε ο, machine.step entry.before entry.event = some (entry.after, entry.outputs) →
      holds entry.before → kind entry ∧ holds entry.after) : ∀ entry ∈ history, kind entry := by
  intro entry member
  obtain ⟨past, future, rfl, reached, taken, _⟩ := path.mem member
  apply (steps entry taken _).1
  exact reached.invariant holds initial fun earlier _ taken before => (steps earlier taken before).2

theorem Path.relates {start final : σ} {history : List (Entry σ ε ο)}
    (path : machine.Path start history final) (related : σ → σ → Prop) (refl : ∀ state, related state state)
    (trans : ∀ {a b c}, related a b → related b c → related a c)
    (step : ∀ entry ∈ history, machine.step entry.before entry.event = some (entry.after, entry.outputs) →
      related entry.before entry.after) : related start final :=
  path.invariant (related start) (refl start) fun entry member taken earlier => trans earlier (step entry member taken)

/-- What holds now and did not hold at the start was established by some step. -/
theorem Path.origin {start final : σ} {history : List (Entry σ ε ο)}
    (path : machine.Path start history final) (holds : σ → Prop) (absent : ¬ holds start) (present : holds final) :
    ∃ past entry future, history = past ++ entry :: future ∧ ¬ holds entry.before ∧ holds entry.after := by
  induction path with
  | refl => exact absurd present absent
  | @snoc state after history event outputs earlier taken ih =>
    by_cases before : holds state
    · obtain ⟨past, entry, future, rfl, missing, reached⟩ := ih before
      exact ⟨past, entry, future ++ [⟨state, event, outputs, after⟩], by simp, missing, reached⟩
    · exact ⟨history, ⟨state, event, outputs, after⟩, [], rfl, before, present⟩

/-- A part of the state that only the marked steps write holds what the latest of
them wrote. -/
theorem Path.latest {τ : Type x} {start final : σ} {history : List (Entry σ ε ο)}
    (path : machine.Path start history final) (marks : Entry σ ε ο → Prop) (view : σ → τ) (value : Entry σ ε ο → τ)
    (writes : ∀ entry ∈ history, machine.step entry.before entry.event = some (entry.after, entry.outputs) →
      marks entry → view entry.after = value entry)
    (keeps : ∀ entry ∈ history, machine.step entry.before entry.event = some (entry.after, entry.outputs) →
      ¬ marks entry → view entry.after = view entry.before) :
    ((∀ entry ∈ history, ¬ marks entry) ∧ view final = view start) ∨
      ∃ past entry future, history = past ++ entry :: future ∧ marks entry ∧ (∀ later ∈ future, ¬ marks later) ∧
        view final = value entry := by
  induction path with
  | refl => exact .inl ⟨by simp, rfl⟩
  | @snoc state after history event outputs earlier taken ih =>
    by_cases marked : marks ⟨state, event, outputs, after⟩
    · exact .inr ⟨history, _, [], rfl, marked, by simp, writes _ List.mem_concat_self taken marked⟩
    · have kept := keeps _ List.mem_concat_self taken marked
      rcases ih (fun entry member => writes entry (List.mem_append_left _ member))
        (fun entry member => keeps entry (List.mem_append_left _ member)) with
        ⟨unmarked, same⟩ | ⟨past, entry, future, rfl, found, unmarked, written⟩
      · exact .inl ⟨List.forall_mem_append.mpr ⟨unmarked, List.forall_mem_singleton.mpr marked⟩, kept.trans same⟩
      · refine .inr ⟨past, entry, future ++ [⟨state, event, outputs, after⟩], by simp, found, ?_, kept.trans written⟩
        exact List.forall_mem_append.mpr ⟨unmarked, List.forall_mem_singleton.mpr marked⟩

theorem Run.invariant {state : σ} {history : List (Entry σ ε ο)}
    (run : machine.Run history state) (holds : σ → Prop) (initial : holds machine.initial)
    (preserved : ∀ {before event after outputs}, machine.step before event = some (after, outputs) →
      holds before → holds after) : holds state :=
  Path.invariant run holds initial fun _ _ taken => preserved taken

variable (machine) in
def Reachable (state : σ) : Prop := ∃ history, machine.Run history state

theorem Reachable.initial : machine.Reachable machine.initial := ⟨[], .refl⟩

theorem Reachable.step {state after : σ} {event : ε} {outputs : List ο} (reachable : machine.Reachable state)
    (taken : machine.step state event = some (after, outputs)) : machine.Reachable after := by
  obtain ⟨history, run⟩ := reachable
  exact ⟨_, run.snoc taken⟩

variable (machine) in
/-- The state after some events, unless one is refused. -/
def after (state : σ) (events : List ε) : Option σ :=
  events.foldlM (fun state event => (machine.step state event).map Prod.fst) state

theorem after_append (state : σ) (first rest : List ε) :
    machine.after state (first ++ rest) = (machine.after state first).bind (machine.after · rest) :=
  List.foldlM_append

theorem Path.after {start final : σ} {history : List (Entry σ ε ο)} (path : machine.Path start history final) :
    machine.after start (history.map Entry.event) = some final := by
  induction path with
  | refl => rfl
  | snoc earlier taken ih =>
    rw [List.map_append, after_append, ih]
    simp [Machine.after, taken]

theorem exists_path {start final : σ} {events : List ε} (reached : machine.after start events = some final) :
    ∃ history, machine.Path start history final ∧ history.map Entry.event = events := by
  induction events generalizing start with
  | nil =>
    cases reached
    exact ⟨[], .refl, rfl⟩
  | cons event rest ih =>
    rw [Machine.after, List.foldlM_cons] at reached
    obtain ⟨middle, taken, later⟩ := Option.bind_eq_some_iff.mp reached
    obtain ⟨⟨_, outputs⟩, step, rfl⟩ := Option.map_eq_some_iff.mp taken
    obtain ⟨history, path, rfl⟩ := ih later
    exact ⟨_, .cons step path, rfl⟩

/-- A machine that refuses no event while a property lasts, and keeps the property,
runs any events. -/
theorem runs (machine : Machine σ ε ο) (holds : σ → Prop) (accepts : ∀ state event, holds state →
      ∃ after outputs, machine.step state event = some (after, outputs) ∧ holds after)
    {start : σ} (initial : holds start) (events : List ε) :
    ∃ history final, machine.Path start history final ∧ history.map Entry.event = events := by
  induction events generalizing start with
  | nil => exact ⟨[], start, .refl, rfl⟩
  | cons event events ih =>
    obtain ⟨middle, outputs, taken, kept⟩ := accepts start event initial
    obtain ⟨history, final, path, same⟩ := ih kept
    exact ⟨_, final, .cons taken path, congrArg (event :: ·) same⟩

/-- A counter that starts at zero and rises by at most one in a step reaches each
of its values in a step of its own, in order. -/
theorem Path.climbs {start final : σ} {history : List (Entry σ ε ο)}
    (path : machine.Path start history final) (count : σ → Nat) (zero : count start = 0)
    (slow : ∀ entry ∈ history, count entry.after = count entry.before ∨
      count entry.after = count entry.before + 1) :
    ∃ times : Nat → Nat, (∀ first second, first < second → second < count final → times first < times second) ∧
      ∀ value, value < count final → ∃ entry, history[times value]? = some entry ∧
        count entry.before = value ∧ count entry.after = value + 1 := by
  induction path with
  | refl => exact ⟨id, by omega, by omega⟩
  | @snoc state after history event outputs earlier taken ih =>
    obtain ⟨times, ordered, rises⟩ := ih fun entry member => slow entry (List.mem_append_left _ member)
    have kept {time : Nat} {entry : Entry σ ε ο} (held : history[time]? = some entry) :
        (history ++ [⟨state, event, outputs, after⟩])[time]? = some entry :=
      (List.getElem?_append_left (List.getElem?_eq_some_iff.mp held).1).trans held
    rcases slow ⟨state, event, outputs, after⟩ (by simp) with same | risen
    · simp only at same
      refine ⟨times, by rwa [same], fun value below => ?_⟩
      obtain ⟨entry, held, between⟩ := rises value (same ▸ below)
      exact ⟨entry, kept held, between⟩
    · simp only at risen
      have inside {value : Nat} (below : value < count state) : times value < history.length := by
        obtain ⟨entry, held, _⟩ := rises value below
        exact (List.getElem?_eq_some_iff.mp held).1
      refine ⟨fun value => if value = count state then history.length else times value, ?_, ?_⟩
      · intro first second before below
        have different : first ≠ count state := by omega
        by_cases last : second = count state
        · simpa only [different, last, if_true, if_false] using inside (by omega)
        · simpa only [different, last, if_false] using ordered first second before (by omega)
      · intro value below
        by_cases last : value = count state
        · subst last
          exact ⟨⟨state, event, outputs, after⟩, by simp, rfl, risen⟩
        · obtain ⟨entry, held, between⟩ := rises value (by omega)
          exact ⟨entry, by simpa only [last, if_false] using kept held, between⟩

/-- A refinement: the steps of one machine, seen through a view of its states,
are finite paths of another. Each abstract step names a concrete step that
allowed it. -/
structure Refines {τ : Type u} {δ : Type v} {ρ : Type w} (concrete : Machine σ ε ο) (abstract : Machine τ δ ρ)
    (view : σ → τ) (allows : σ → ε → δ → Prop) : Prop where
  initial : view concrete.initial = abstract.initial
  step : ∀ {before event after outputs}, concrete.step before event = some (after, outputs) →
    ∃ moves, abstract.Path (view before) moves (view after) ∧ ∀ move ∈ moves, allows before event move.event

namespace Refines
variable {τ : Type u} {δ : Type v} {ρ : Type w} {abstract : Machine τ δ ρ} {view : σ → τ} {allows : σ → ε → δ → Prop}

theorem path (refines : Refines machine abstract view allows) {start final : σ} {history : List (Entry σ ε ο)}
    (path : machine.Path start history final) : ∃ moves, abstract.Path (view start) moves (view final) := by
  induction path with
  | refl => exact ⟨[], .refl⟩
  | snoc earlier taken ih =>
    obtain ⟨moves, before⟩ := ih
    obtain ⟨more, step, _⟩ := refines.step taken
    exact ⟨moves ++ more, before.append step⟩

theorem run (refines : Refines machine abstract view allows) {final : σ} {history : List (Entry σ ε ο)}
    (run : machine.Run history final) : ∃ moves, abstract.Run moves (view final) := by
  obtain ⟨moves, matched⟩ := refines.path run
  exact ⟨moves, by rwa [refines.initial] at matched⟩

/-- If the abstract machine can establish a property by one kind of step only,
then a concrete run with the property contains a step that allowed it. -/
theorem origin (refines : Refines machine abstract view allows) (holds : τ → Prop) {event : δ}
    (only : ∀ {before move after outputs}, abstract.step before move = some (after, outputs) →
      ¬ holds before → holds after → move = event)
    {start final : σ} {history : List (Entry σ ε ο)} (path : machine.Path start history final)
    (absent : ¬ holds (view start)) (present : holds (view final)) :
    ∃ past entry future, history = past ++ entry :: future ∧ allows entry.before entry.event event := by
  obtain ⟨past, entry, future, rfl, missing, reached⟩ := path.origin (fun state => holds (view state)) absent present
  obtain ⟨moves, through, allowed⟩ := refines.step path.entry.2.1
  obtain ⟨earlier, move, later, rfl, before, after⟩ := through.origin holds missing reached
  have same := only through.entry.2.1 before after
  exact ⟨past, entry, future, rfl, same ▸ allowed move (by simp)⟩

end Refines
end Machine
end FlightStack
