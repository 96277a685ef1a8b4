import Mathlib.Logic.Relation
import Mathlib.Data.List.Nodup
import Mathlib.Data.List.Perm.Lattice

/-! Groups of items that hang together because each is near the next. -/

namespace FlightStack.Components

universe u
variable {ι : Type u} (near : ι → ι → Prop)

/-- A chain through the items. -/
def Linked (items : List ι) : ι → ι → Prop :=
  Relation.ReflTransGen fun first second => second ∈ items ∧ near first second

/-- All the items that are linked to one of them, each once. -/
structure Group (items group : List ι) : Prop where
  once : group.Nodup
  whole : ∃ seed ∈ items, ∀ item, item ∈ group ↔ Linked near items seed item

variable {near} {items group : List ι}

theorem Linked.mem {seed item : ι} (held : seed ∈ items) (linked : Linked near items seed item) : item ∈ items := by
  induction linked with
  | refl => exact held
  | tail _ step => exact step.1

theorem Group.subset (whole : Group near items group) : group ⊆ items := by
  obtain ⟨seed, held, linked⟩ := whole.whole
  intro item member
  exact ((linked item).mp member).mem held

theorem Group.ne_nil (whole : Group near items group) : group ≠ [] := by
  obtain ⟨seed, _, linked⟩ := whole.whole
  exact List.ne_nil_of_mem ((linked seed).mpr .refl)

theorem Linked.congr {others : List ι} (same : ∀ item, item ∈ items ↔ item ∈ others) :
    Linked near items = Linked near others := by
  simp only [Linked, same]

theorem Group.congr {others : List ι} (same : ∀ item, item ∈ items ↔ item ∈ others) :
    Group near items group ↔ Group near others group := by
  have linked : Linked near items = Linked near others := Linked.congr same
  constructor
  · intro group
    obtain ⟨once, seed, held, whole⟩ := group
    exact ⟨once, seed, (same seed).mp held, linked ▸ whole⟩
  · intro group
    obtain ⟨once, seed, held, whole⟩ := group
    exact ⟨once, seed, (same seed).mpr held, linked.symm ▸ whole⟩

/-- A list whose neighbours are near each other hangs together. -/
theorem linked_chain {first : ι} {rest : List ι} (chain : (first :: rest).IsChain near) (held : rest ⊆ items) :
    ∀ item ∈ first :: rest, Linked near items first item := by
  induction rest generalizing first with
  | nil =>
    intro item member
    exact List.mem_singleton.mp member ▸ .refl
  | cons second rest ih =>
    obtain ⟨close, later⟩ := List.isChain_cons_cons.mp chain
    obtain ⟨here, onward⟩ := List.cons_subset.mp held
    intro item member
    rcases List.mem_cons.mp member with rfl | member
    · exact .refl
    · exact .head ⟨here, close⟩ (ih later onward item member)

theorem group_chain {first : ι} {rest : List ι} (once : (first :: rest).Nodup)
    (chain : (first :: rest).IsChain near) : Group near (first :: rest) (first :: rest) := by
  refine ⟨once, first, List.mem_cons_self, fun item => ⟨?_, Linked.mem List.mem_cons_self⟩⟩
  exact linked_chain chain (List.subset_cons_self first rest) item

/-! Every group can be listed -/

variable (near items) in
open Classical in
noncomputable def groupOf (seed : ι) : List ι := items.filter fun item => Linked near items seed item

theorem groupOf_group (once : items.Nodup) {seed : ι} (held : seed ∈ items) :
    Group near items (groupOf near items seed) := by
  classical
  refine ⟨once.filter _, seed, held, fun item => ?_⟩
  simp only [groupOf, List.mem_filter, decide_eq_true_eq, and_iff_right_iff_imp]
  intro linked
  exact linked.mem held

theorem Group.exists_groupOf (once : items.Nodup) (whole : Group near items group) :
    ∃ seed ∈ items, (groupOf near items seed).Perm group := by
  obtain ⟨seed, held, linked⟩ := whole.whole
  refine ⟨seed, held, (List.perm_ext_iff_of_nodup (groupOf_group once held).once whole.once).mpr fun item => ?_⟩
  classical
  simp only [groupOf, List.mem_filter, decide_eq_true_eq, linked, and_iff_right_iff_imp]
  intro linked
  exact linked.mem held

end FlightStack.Components
