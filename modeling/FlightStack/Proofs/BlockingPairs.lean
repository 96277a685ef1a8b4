import FlightStack.Proofs.FrameAccount

/-! The association serves the poles in the order of the list. A pole can lose a
candidate to a pole before it, however close it is itself, and in no other way. -/

namespace FlightStack.Proofs
open PoleDetectionNode
variable {α : Type} [Arithmetic α]

section Pairs
variable (parameters : DetectionParameters α) (candidates poles : List (PoleInfo α))

/-- The pole at `index` got nothing, or something farther away than the candidate. -/
def Envies (index : Nat) (pole candidate : PoleInfo α) : Prop :=
  ∀ (got : Nat) (other : PoleInfo α), (choices parameters candidates poles)[index]? = some (some got) → candidates[got]? = some other →
    distanceToInlist pole candidate < distanceToInlist pole other

/-- The candidate `num` was given to nobody, or to a pole farther away. -/
def Yields (num : Nat) (pole candidate : PoleInfo α) : Prop :=
  ∀ (holder : Nat) (rival : PoleInfo α), (choices parameters candidates poles)[holder]? = some (some num) → poles[holder]? = some rival →
    distanceToInlist pole candidate < distanceToInlist rival candidate

def BlockingPair (index num : Nat) : Prop :=
  ∃ pole candidate, poles[index]? = some pole ∧ candidates[num]? = some candidate ∧
    distanceToInlist pole candidate < parameters.poleAssociationThreshold ∧
    Envies parameters candidates poles index pole candidate ∧ Yields parameters candidates poles num pole candidate

end Pairs

variable {parameters : DetectionParameters α} {candidates : List (PoleInfo α)}

/-- As long as a candidate is free, a pole in reach of it gets one that is no farther away. -/
theorem pick_best {pole candidate : PoleInfo α} {taken : List Nat} {num : Nat}
    (held : candidates[num]? = some candidate) (unused : candidate.isUsed = false) (free : num ∉ taken)
    (near : distanceToInlist pole candidate < parameters.poleAssociationThreshold)
    (inside : distanceToInlist pole candidate < 1000) :
    ∃ got other, pick parameters candidates pole taken = some got ∧ candidates[got]? = some other ∧
      distanceToInlist pole other ≤ distanceToInlist pole candidate := by
  have offered : candidate ∈ marked candidates taken :=
    List.mem_of_getElem? (show (marked candidates taken)[num]? = some candidate by simp [getElem?_marked, held, free])
  unfold pick
  have search := nearest_cases pole (marked candidates taken) 1000
  generalize nearest pole (marked candidates taken) 0 1000 none = result at search ⊢
  cases search with
  | none far => exact absurd inside (not_lt.mpr (far candidate offered unused))
  | some got other found fresh _ least =>
    have close := least candidate offered unused
    exact ⟨got, other, if_pos (close.trans_lt near), (marked_unused found fresh).2, close⟩

theorem first_served (node : PoleDetectionNode α) (fresh : ∀ candidate ∈ candidates, Candidate candidate)
    {index num : Nat} {pole candidate : PoleInfo α} (held : node.poleList[index]? = some pole)
    (found : candidates[num]? = some candidate)
    (near : distanceToInlist pole candidate < parameters.poleAssociationThreshold)
    (inside : distanceToInlist pole candidate < 1000)
    (envies : Envies parameters candidates node.poleList index pole candidate) :
    ∃ earlier < index, (choices parameters candidates node.poleList)[earlier]? = some (some num) := by
  let wants (pole : PoleInfo α) (num : Nat) := ∃ candidate, candidates[num]? = some candidate ∧
    distanceToInlist pole candidate < parameters.poleAssociationThreshold ∧ distanceToInlist pole candidate < 1000
  let prefers (pole : PoleInfo α) (num got : Nat) := ∀ candidate other, candidates[num]? = some candidate →
    candidates[got]? = some other → distanceToInlist pole candidate < distanceToInlist pole other
  have best (seeker : PoleInfo α) (taken : List Nat) (item : Nat) (wanted : wants seeker item) (free : item ∉ taken) :
      ∃ got, pick parameters candidates seeker taken = some got ∧ ¬ prefers seeker item got := by
    obtain ⟨candidate, found, near, inside⟩ := wanted
    obtain ⟨got, other, picked, there, close⟩ :=
      pick_best found (fresh candidate (List.mem_of_getElem? found)).fresh.1 free near inside
    exact ⟨got, picked, fun better => (better candidate other found there).not_ge close⟩
  have asked : (node.poleList.map reset)[index]? = some (reset pole) := by simp [held]
  obtain ⟨choice, given⟩ := choice_exists parameters candidates held
  have better (got : Nat) (chosen : choice = some got) : prefers (reset pole) num got := by
    intro candidate other here there
    cases found.symm.trans here
    exact envies got other (given.trans (congrArg some chosen)) there
  rcases Greedy.assign_priority best asked given ⟨candidate, found, near, inside⟩ better with before | gone
  · exact before
  · cases gone

theorem used_iff (node : PoleDetectionNode α) (fresh : ∀ candidate ∈ candidates, Candidate candidate) {num : Nat}
    {candidate : PoleInfo α}
    (left : (associate parameters (node.poleList.map reset) candidates).2[num]? = some candidate) :
    candidate.isUsed = true ↔ some num ∈ choices parameters candidates node.poleList := by
  rw [association_eq, getElem?_marked, Option.map_eq_some_iff] at left
  obtain ⟨original, found, rfl⟩ := left
  have unused := (fresh original (List.mem_of_getElem? found)).fresh.1
  have gone : num ∈ Greedy.gone (pick parameters candidates) (node.poleList.map reset) [] ↔
      some num ∈ choices parameters candidates node.poleList := by simp [Greedy.mem_gone, choices]
  rw [← gone]
  split <;> simp_all

/-- The association loop makes the matching `choices`. Whoever envies a pair in
reach finds the candidate given to a pole before it in the list. -/
theorem no_later_blocking (parameters : DetectionParameters α) (node : PoleDetectionNode α)
    (candidates : List (PoleInfo α)) (fresh : ∀ candidate ∈ candidates, Candidate candidate) :
    let given := choices parameters candidates node.poleList
    let (poles, left) := associate parameters (node.poleList.map reset) candidates
    (given.length = node.poleList.length ∧
      poles = List.zipWith (settle parameters candidates) (node.poleList.map reset) given ∧
      ∀ num candidate, left[num]? = some candidate → (candidate.isUsed = true ↔ some num ∈ given)) ∧
    ∀ index num pole candidate, node.poleList[index]? = some pole → candidates[num]? = some candidate →
      distanceToInlist pole candidate < parameters.poleAssociationThreshold → distanceToInlist pole candidate < 1000 →
      Envies parameters candidates node.poleList index pole candidate →
      ∃ earlier < index, given[earlier]? = some (some num) := by
  refine ⟨⟨length_choices _ _, ?_, ?_⟩, ?_⟩
  · rw [association_eq]
    rfl
  · intro num candidate left
    exact used_iff node fresh left
  · intro index num pole candidate held found near inside envies
    exact first_served node fresh held found near inside envies

/-! Two poles are tracked, and the one that is seen again is the second. -/

section Example

private noncomputable def hidden : PoleInfo ℝ := { PoleInfo.construct 1 0 0.1 with detected := true }

private noncomputable def seen : PoleInfo ℝ := { PoleInfo.construct 1 0.3 0.1 with id := 1, detected := true }

private noncomputable def found : PoleInfo ℝ := .construct 1 0.25 0.1

private theorem hidden_gap : distanceToInlist hidden found = 0.25 :=
  distanceToInlist_eq (by norm_num) (by norm_num [hidden, found, PoleInfo.construct])

private theorem seen_gap : distanceToInlist seen found = 0.05 :=
  distanceToInlist_eq (by norm_num) (by norm_num [seen, found, PoleInfo.construct])

private theorem first_takes : choices .declared [found] [hidden, seen] = [some 0, none] := by
  have first : pick .declared [found] (reset hidden) [] = some 0 := by
    have gap : distanceToInlist (reset hidden) found = 0.25 := hidden_gap
    have reach : (0.25 : ℝ) < 1000 := by norm_num
    have within : (0.25 : ℝ) < 0.5 := by norm_num
    have unused : found.isUsed = false := rfl
    rw [pick, marked_nil]
    simp [nearest, gap, reach, within, unused, DetectionParameters.declared]
  have second : pick .declared [found] (reset seen) [0] = none := by simp [pick, marked, nearest]
  simp [choices, Greedy.assign, first, second]

private theorem seen_envies : Envies .declared [found] [hidden, seen] 1 seen found := by
  intro got other given
  rw [first_takes] at given
  cases given

theorem no_later_blocking_two : ∃ earlier < 1, (choices .declared [found] [hidden, seen])[earlier]? = some (some 0) := by
  refine (no_later_blocking .declared ⟨[hidden, seen], 2, [], false⟩ [found] ?_).2 1 0 seen found rfl rfl ?_ ?_ seen_envies
  · simp [found, Candidate]
  · norm_num [seen_gap, DetectionParameters.declared]
  · norm_num [seen_gap]

/-- A pole that was not seen takes the candidate of the pole next to it. -/
theorem blocking_pair_exists : ∃ (node : PoleDetectionNode ℝ) (candidates : List (PoleInfo ℝ)),
    (∀ candidate ∈ candidates, Candidate candidate) ∧
    ∃ index num, BlockingPair .declared candidates node.poleList index num := by
  refine ⟨⟨[hidden, seen], 2, [], false⟩, [found], by simp [found, Candidate], 1, 0, seen, found, rfl, rfl, ?_,
    seen_envies, ?_⟩
  · norm_num [seen_gap, DetectionParameters.declared]
  · intro holder rival given held
    rw [first_takes] at given
    rcases holder with _ | _ | holder
    · cases held
      norm_num [hidden_gap, seen_gap]
    · cases given
    · cases given

end Example
end FlightStack.Proofs
