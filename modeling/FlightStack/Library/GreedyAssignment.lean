import Mathlib.Data.List.ReduceOption
import Mathlib.Data.List.Nodup
import Mathlib.Data.List.Range

/-! A greedy pass. Seekers come in order, and each picks an item among those that
nobody before it has taken. -/

namespace FlightStack.Greedy

universe u

variable {σ : Type u} (pick : σ → List Nat → Option Nat)

/-- What each seeker gets once the items in `taken` are gone. -/
def assign : List σ → List Nat → List (Option Nat)
  | [], _ => []
  | seeker :: rest, taken => pick seeker taken :: assign rest ((pick seeker taken).toList ++ taken)

def gone : List σ → List Nat → List Nat
  | [], taken => taken
  | seeker :: rest, taken => gone rest ((pick seeker taken).toList ++ taken)

variable {pick} {seekers : List σ} {taken : List Nat}

@[simp] theorem length_assign : (assign pick seekers taken).length = seekers.length := by
  induction seekers generalizing taken with
  | nil => rfl
  | cons seeker rest ih => simp [assign, ih]

theorem mem_gone {item : Nat} :
    item ∈ gone pick seekers taken ↔ some item ∈ assign pick seekers taken ∨ item ∈ taken := by
  induction seekers generalizing taken with
  | nil => simp [gone, assign]
  | cons seeker rest ih =>
    simp only [gone, assign, ih, List.mem_append, Option.mem_toList, List.mem_cons, eq_comm]
    tauto

/-- What holds of every pick holds of every assignment. -/
theorem assign_holds {holds : σ → Nat → Prop}
    (sound : ∀ seeker taken item, pick seeker taken = some item → holds seeker item) {index item : Nat} {seeker : σ}
    (asked : seekers[index]? = some seeker) (given : (assign pick seekers taken)[index]? = some (some item)) :
    holds seeker item := by
  induction seekers generalizing taken index with
  | nil => cases asked
  | cons first rest ih =>
    cases index with
    | zero => exact Option.some.inj asked ▸ sound first taken item (Option.some.inj given)
    | succ index => exact ih asked given

/-- The first come, first served rule: a seeker that wants an item and got nothing
better finds it taken by someone before it. -/
theorem assign_priority {wants : σ → Nat → Prop} {prefers : σ → Nat → Nat → Prop}
    (best : ∀ seeker taken item, wants seeker item → item ∉ taken →
      ∃ got, pick seeker taken = some got ∧ ¬ prefers seeker item got) {index item : Nat} {seeker : σ}
    {choice : Option Nat} (asked : seekers[index]? = some seeker)
    (given : (assign pick seekers taken)[index]? = some choice) (wanted : wants seeker item)
    (better : ∀ got, choice = some got → prefers seeker item got) :
    (∃ earlier < index, (assign pick seekers taken)[earlier]? = some (some item)) ∨ item ∈ taken := by
  induction seekers generalizing taken index with
  | nil => cases asked
  | cons first rest ih =>
    cases index with
    | zero =>
      right
      by_contra free
      obtain ⟨got, picked, worse⟩ := best seeker taken item wanted free
      obtain rfl : first = seeker := Option.some.inj asked
      exact worse (better got ((Option.some.inj given).symm.trans picked))
    | succ index =>
      rcases ih asked given with ⟨earlier, before, there⟩ | gone
      · exact .inl ⟨earlier + 1, Nat.succ_lt_succ before, there⟩
      · rcases List.mem_append.mp gone with here | gone
        · exact .inl ⟨0, Nat.zero_lt_succ index, congrArg some (Option.mem_toList.mp here)⟩
        · exact .inr gone

section Free
variable (free : ∀ seeker taken item, pick seeker taken = some item → item ∉ taken)
include free

theorem assign_free {item : Nat} (given : some item ∈ assign pick seekers taken) : item ∉ taken := by
  induction seekers generalizing taken with
  | nil => cases given
  | cons seeker rest ih =>
    rcases List.mem_cons.mp given with here | later
    · exact free seeker taken item here.symm
    · exact fun gone => ih later (List.mem_append_right _ gone)

theorem assign_once {first second item : Nat} (here : (assign pick seekers taken)[first]? = some (some item))
    (there : (assign pick seekers taken)[second]? = some (some item)) : first = second := by
  induction seekers generalizing taken first second with
  | nil => cases here
  | cons seeker rest ih =>
    have later {index : Nat} (given : (assign pick rest ((pick seeker taken).toList ++ taken))[index]? = some (some item)) :
        pick seeker taken ≠ some item := by
      intro picked
      refine assign_free free (List.mem_of_getElem? given) ?_
      simp [picked]
    cases first with
    | zero =>
      cases second with
      | zero => rfl
      | succ second => exact absurd (Option.some.inj here) (later there)
    | succ first =>
      cases second with
      | zero => exact absurd (Option.some.inj there) (later here)
      | succ second => exact congrArg Nat.succ (ih here there)

theorem assign_nodup : (assign pick seekers taken).reduceOption.Nodup := by
  induction seekers generalizing taken with
  | nil => exact List.nodup_nil
  | cons seeker rest ih =>
    rw [assign]
    cases picked : pick seeker taken with
    | none => exact ih
    | some item =>
      rw [List.reduceOption_cons_of_some, List.nodup_cons]
      refine ⟨fun again => ?_, ih⟩
      exact assign_free free (List.reduceOption_mem_iff.mp again) (by simp)

/-- Among the items below a bound, those left over and those assigned make up all. -/
theorem count_left (bound : Nat) (below : ∀ item, some item ∈ assign pick seekers taken → item < bound) :
    (List.range bound).countP (some · ∉ assign pick seekers taken) +
      (assign pick seekers taken).countP Option.isSome = bound := by
  have claimed : ((List.range bound).filter (some · ∈ assign pick seekers taken)).Perm
      (assign pick seekers taken).reduceOption := by
    apply (List.perm_ext_iff_of_nodup (List.nodup_range.filter _) (assign_nodup free)).mpr
    intro item
    simpa [List.reduceOption_mem_iff] using below item
  have parts := List.length_eq_countP_add_countP (some · ∈ assign pick seekers taken) (l := List.range bound)
  rw [List.length_range, List.countP_eq_length_filter, claimed.length_eq, List.reduceOption_length_eq,
    ← List.countP_eq_length_filter] at parts
  simp only [decide_not, Bool.decide_eq_true] at parts ⊢
  omega

end Free
end FlightStack.Greedy
