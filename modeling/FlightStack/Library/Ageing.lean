import Mathlib.Data.List.Nodup
import Mathlib.Data.List.Perm.Subperm
import Mathlib.Algebra.BigOperators.Group.Finset.Piecewise

/-! Names that grow old. A frame renews some names, makes the others one frame older,
lets go of those beyond a limit, and adds new ones. -/

namespace FlightStack.Ageing

universe u

structure Frame (ν : Type u) where
  renewed : List ν
  fresh : List ν

variable {ν : Type u} [DecidableEq ν]

namespace Frame

def shows (frame : Frame ν) (name : ν) : Bool := name ∈ frame.renewed || name ∈ frame.fresh

def size (frame : Frame ν) : Nat := frame.renewed.length + frame.fresh.length

/-- A frame for the names in use: it renews some of them, each once, and its new
names are new. -/
structure Fits (frame : Frame ν) (items : List (ν × Nat)) : Prop where
  renewed : frame.renewed.Sublist (items.map Prod.fst)
  fresh : ∀ name ∈ frame.fresh, name ∉ items.map Prod.fst
  once : frame.fresh.Nodup

end Frame

variable (limit : Nat)

def older (frame : Frame ν) (item : ν × Nat) : ν × Nat := (item.1, if item.1 ∈ frame.renewed then 0 else item.2 + 1)

def advance (items : List (ν × Nat)) (frame : Frame ν) : List (ν × Nat) :=
  (items.map (older frame)).filter (·.2 ≤ limit) ++ frame.fresh.map (·, 0)

/-- The names in use after some frames, each of which fits. -/
inductive Run : List (Frame ν) → List (ν × Nat) → Prop where
  | nil : Run [] []
  | snoc {frames : List (Frame ν)} {items : List (ν × Nat)} {frame : Frame ν} (earlier : Run frames items)
      (fits : frame.Fits items) : Run (frames ++ [frame]) (advance limit items frame)

/-- The frames since the last one that shows the name. -/
def since (frames : List (Frame ν)) (name : ν) : Nat := (frames.reverse.takeWhile (!·.shows name)).length

variable {limit} {frames : List (Frame ν)} {items : List (ν × Nat)} {frame : Frame ν} {name : ν}

theorem since_snoc : since (frames ++ [frame]) name = if frame.shows name then 0 else since frames name + 1 := by
  cases shown : frame.shows name <;> simp [since, shown]

theorem mem_advance {item : ν × Nat} : item ∈ advance limit items frame ↔
    (∃ old ∈ items, item = older frame old ∧ item.2 ≤ limit) ∨ item.1 ∈ frame.fresh ∧ item.2 = 0 := by
  obtain ⟨name, age⟩ := item
  simp only [advance, List.mem_append, List.mem_filter, List.mem_map, decide_eq_true_eq, Prod.mk.injEq]
  constructor
  · intro member
    rcases member with ⟨⟨old, held, same⟩, young⟩ | ⟨_, fresh, rfl, rfl⟩
    · exact .inl ⟨old, held, same.symm, young⟩
    · exact .inr ⟨fresh, rfl⟩
  · intro origin
    rcases origin with ⟨old, held, same, young⟩ | ⟨fresh, rfl⟩
    · exact .inl ⟨⟨old, held, same.symm⟩, young⟩
    · exact .inr ⟨name, fresh, rfl, rfl⟩

theorem advance_young (item : ν × Nat) (member : item ∈ advance limit items frame) : item.2 ≤ limit := by
  rcases mem_advance.mp member with ⟨_, _, _, young⟩ | ⟨_, zero⟩
  · exact young
  · omega

theorem names_advance : (advance limit items frame).map Prod.fst =
    ((items.map (older frame)).filter (·.2 ≤ limit)).map Prod.fst ++ frame.fresh := by
  simp [advance, Function.comp_def]

theorem Frame.Fits.nodup (fits : frame.Fits items) (distinct : (items.map Prod.fst).Nodup) :
    ((advance limit items frame).map Prod.fst).Nodup := by
  have same : (items.map (older frame)).map Prod.fst = items.map Prod.fst := by simp [older, Function.comp_def]
  have kept : (((items.map (older frame)).filter (·.2 ≤ limit)).map Prod.fst).Sublist (items.map Prod.fst) :=
    same ▸ List.filter_sublist.map Prod.fst
  rw [names_advance, List.nodup_append]
  refine ⟨distinct.sublist kept, fits.once, fun old held new fresh same => ?_⟩
  exact fits.fresh new fresh (same ▸ kept.subset held)

theorem Run.nodup (run : Run limit frames items) : (items.map Prod.fst).Nodup := by
  induction run with
  | nil => exact List.nodup_nil
  | snoc _ fits ih => exact fits.nodup ih

theorem Run.young (run : Run limit frames items) (item : ν × Nat) (member : item ∈ items) : item.2 ≤ limit := by
  cases run with
  | nil => cases member
  | snoc => exact advance_young item member

/-- An age counts the frames since the name was last shown. -/
theorem Run.age (run : Run limit frames items) {age : Nat} (member : (name, age) ∈ items) :
    age = since frames name ∧ ∃ frame ∈ frames, frame.shows name = true := by
  induction run generalizing age with
  | nil => cases member
  | @snoc frames items frame earlier fits ih =>
    rw [since_snoc]
    rcases mem_advance.mp member with ⟨⟨_, old⟩, held, same, _⟩ | ⟨fresh, rfl⟩
    · obtain ⟨rfl, rfl⟩ := Prod.mk.inj same
      have notFresh : name ∉ frame.fresh := fun new => fits.fresh name new (List.mem_map_of_mem held)
      by_cases renewed : name ∈ frame.renewed
      · have shown : frame.shows name = true := by simp [Frame.shows, renewed]
        exact ⟨by simp [renewed, shown], frame, by simp, shown⟩
      · obtain ⟨counted, earlier, member, shown⟩ := ih held
        have hidden : frame.shows name = false := by simp [Frame.shows, renewed, notFresh]
        exact ⟨by simp [renewed, hidden, counted], earlier, List.mem_append_left _ member, shown⟩
    · have shown : frame.shows name = true := by simp [Frame.shows, fresh]
      exact ⟨by simp [shown], frame, by simp, shown⟩

/-- A name is let go of in the one frame that would make it too old. -/
theorem Frame.Fits.leaves (fits : frame.Fits items) (distinct : (items.map Prod.fst).Nodup) {age : Nat}
    (held : (name, age) ∈ items) (young : age ≤ limit) :
    name ∉ (advance limit items frame).map Prod.fst ↔ name ∉ frame.renewed ∧ age = limit := by
  have stays : name ∈ (advance limit items frame).map Prod.fst ↔ (older frame (name, age)).2 ≤ limit := by
    constructor
    · intro member
      obtain ⟨item, present, called⟩ := List.mem_map.mp member
      rcases mem_advance.mp present with ⟨old, there, same, young⟩ | ⟨fresh, _⟩
      · have here : old.1 = name := (congrArg Prod.fst same).symm.trans called
        cases List.inj_on_of_nodup_map distinct held there here.symm
        exact same ▸ young
      · exact absurd (List.mem_map_of_mem held) (fits.fresh name (called ▸ fresh))
    · exact fun young => List.mem_map_of_mem (mem_advance.mpr (.inl ⟨(name, age), held, rfl, young⟩))
  rw [stays]
  by_cases renewed : name ∈ frame.renewed
  · simp [older, renewed]
  · simp [older, renewed]; omega

/-! How many names have an age -/

theorem Frame.Fits.count_zero (fits : frame.Fits items) (distinct : (items.map Prod.fst).Nodup) :
    (advance limit items frame).countP (·.2 = 0) = frame.size := by
  have chosen : ((items.map Prod.fst).filter (· ∈ frame.renewed)).Perm frame.renewed := by
    apply (List.perm_ext_iff_of_nodup (distinct.filter _) (distinct.sublist fits.renewed)).mpr
    intro name
    simpa using fun renewed => fits.renewed.subset renewed
  have renewed : items.countP (·.1 ∈ frame.renewed) = frame.renewed.length := by
    rw [← chosen.length_eq, ← List.countP_eq_length_filter, List.countP_map]
    rfl
  have kept : ((items.map (older frame)).filter (·.2 ≤ limit)).countP (·.2 = 0) =
      items.countP (·.1 ∈ frame.renewed) := by
    rw [List.countP_filter, List.countP_map]
    apply List.countP_congr
    intro item _
    by_cases renewed : item.1 ∈ frame.renewed <;> simp [older, renewed]
  rw [advance, List.countP_append, kept, renewed, Frame.size, List.countP_map]
  simp

/-- Whatever has an age above zero had the age below it one frame ago. -/
theorem count_succ (age : Nat) :
    (advance limit items frame).countP (·.2 = age + 1) ≤ items.countP (·.2 = age) := by
  have fresh : (frame.fresh.map (·, 0)).countP (fun item : ν × Nat => decide (item.2 = age + 1)) = 0 := by
    simp [List.countP_map]
  rw [advance, List.countP_append, fresh, Nat.add_zero, List.countP_filter, List.countP_map]
  apply List.countP_mono_left
  intro item _
  by_cases renewed : item.1 ∈ frame.renewed <;> simp [older, renewed]
  exact fun same _ => same

theorem Run.count_le (run : Run limit frames items) (age : Nat) :
    items.countP (·.2 = age) ≤ ((frames.reverse.map Frame.size)[age]?).getD 0 := by
  induction run generalizing age with
  | nil => simp
  | snoc earlier fits ih =>
    rw [List.reverse_append, List.reverse_singleton, List.singleton_append, List.map_cons]
    cases age with
    | zero => exact (fits.count_zero earlier.nodup).le
    | succ age => exact (count_succ age).trans (ih age)

theorem Run.count_zero (run : Run limit frames items) :
    items.countP (·.2 = 0) = ((frames.reverse.map Frame.size)[0]?).getD 0 := by
  cases run with
  | nil => simp
  | snoc earlier fits => simp [fits.count_zero earlier.nodup]

omit [DecidableEq ν] in
/-- Every name has one of the ages up to the limit. -/
theorem length_eq_sum (young : ∀ item ∈ items, item.2 ≤ limit) :
    items.length = ∑ age ∈ Finset.range (limit + 1), items.countP (·.2 = age) := by
  induction items with
  | nil => simp
  | cons item rest ih =>
    have here : ∑ age ∈ Finset.range (limit + 1), (if item.2 = age then 1 else 0) = 1 := by
      rw [Finset.sum_ite_eq, if_pos (Finset.mem_range.mpr (Nat.lt_succ_of_le (young item List.mem_cons_self)))]
    simp only [List.countP_cons, decide_eq_true_eq, Finset.sum_add_distrib, here, List.length_cons,
      ← ih fun other member => young other (List.mem_cons_of_mem _ member)]

/-! Frames that show nothing -/

def quiet : Frame ν := ⟨[], []⟩

theorem mem_quiet (young : ∀ item ∈ items, item.2 ≤ limit) (count : Nat) {age : Nat} :
    (name, age) ∈ (List.replicate count quiet).foldl (advance limit) items ↔
      ∃ old, (name, old) ∈ items ∧ age = old + count ∧ age ≤ limit := by
  induction count generalizing items with
  | zero =>
    simp only [List.replicate_zero, List.foldl_nil, Nat.add_zero]
    constructor
    · exact fun member => ⟨age, member, rfl, young _ member⟩
    · intro earlier
      obtain ⟨_, member, rfl, _⟩ := earlier
      exact member
  | succ count ih =>
    rw [List.replicate_succ, List.foldl_cons, ih fun item member => advance_young item member]
    simp only [mem_advance, older, quiet, List.not_mem_nil, if_false, false_and, or_false, Prod.mk.injEq]
    constructor
    · intro later
      obtain ⟨_, ⟨⟨_, old⟩, held, ⟨rfl, rfl⟩, _⟩, rfl, within⟩ := later
      exact ⟨old, held, by omega, within⟩
    · intro earlier
      obtain ⟨old, held, rfl, within⟩ := earlier
      exact ⟨old + 1, ⟨(name, old), held, ⟨rfl, rfl⟩, by omega⟩, by omega, within⟩

/-- When nothing is shown for long enough, nothing is left. -/
theorem quiet_forgets (young : ∀ item ∈ items, item.2 ≤ limit) (count : Nat) :
    (List.replicate count quiet).foldl (advance limit) items = [] ↔ ∀ item ∈ items, limit < item.2 + count := by
  rw [List.eq_nil_iff_forall_not_mem]
  constructor
  · intro gone ⟨name, age⟩ member
    by_contra within
    exact gone (name, age + count) ((mem_quiet young count).mpr ⟨age, member, rfl, not_lt.mp within⟩)
  · intro old ⟨name, age⟩ member
    obtain ⟨earlier, held, rfl, within⟩ := (mem_quiet young count).mp member
    exact absurd (old _ held) (not_lt.mpr within)

end FlightStack.Ageing
