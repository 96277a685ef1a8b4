import FlightStack.Proofs.Tracking

/-! The order of the clusters. Two frames with the same candidates in another order
leave the tracked poles alike, as long as no pole has to choose between two that are
equally near. -/

namespace FlightStack.Proofs
open PoleDetectionNode
variable {α : Type} [Arithmetic α] {parameters : DetectionParameters α} {candidates others : List (PoleInfo α)}

omit [Arithmetic α] in
def unused (candidates : List (PoleInfo α)) : List (PoleInfo α) := candidates.filter (!·.isUsed)

/-- The pole has no two different candidates at one distance within its reach. -/
def Untied (parameters : DetectionParameters α) (candidates : List (PoleInfo α)) (pole : PoleInfo α) : Prop :=
  ∀ first ∈ candidates, ∀ second ∈ candidates, distanceToInlist pole first < parameters.poleAssociationThreshold →
    distanceToInlist pole first = distanceToInlist pole second → first = second

omit [Arithmetic α] in
theorem mem_unused {candidate : PoleInfo α} :
    candidate ∈ unused candidates ↔ candidate ∈ candidates ∧ candidate.isUsed = false := by
  simp [unused]

omit [Arithmetic α] in
/-- Marking a candidate takes it out of those that can still be picked. -/
theorem unused_modify {num : Nat} {candidate : PoleInfo α} (found : candidates[num]? = some candidate)
    (free : candidate.isUsed = false) : (unused candidates).Perm
      (candidate :: unused (candidates.modify num fun candidate => { candidate with isUsed := true })) := by
  induction candidates generalizing num with
  | nil => cases found
  | cons first rest ih =>
    cases num with
    | zero =>
      obtain rfl : first = candidate := Option.some.inj found
      simp [unused, free]
    | succ num =>
      have later := ih found
      cases used : first.isUsed with
      | true => simpa [unused, used] using later
      | false =>
        simp only [unused, List.modify_succ_cons, List.filter_cons, used, Bool.not_false, if_true] at later ⊢
        exact (later.cons first).trans (.swap candidate first _)

/-- Both searches find the same candidate in reach, or both find none. -/
inductive Agree (parameters : DetectionParameters α) (candidates others : List (PoleInfo α)) :
    α × Option (Nat × PoleInfo α) → α × Option (Nat × PoleInfo α) → Prop where
  | far {best best' : α} {num num' : Option (Nat × PoleInfo α)}
      (here : num = none ∨ parameters.poleAssociationThreshold ≤ best)
      (there : num' = none ∨ parameters.poleAssociationThreshold ≤ best') : Agree parameters candidates others (best, num) (best', num')
  | near {best : α} {num num' : Nat} {candidate : PoleInfo α} (reach : best < parameters.poleAssociationThreshold)
      (free : candidate.isUsed = false) (here : candidates[num]? = some candidate)
      (there : others[num']? = some candidate) :
      Agree parameters candidates others (best, some (num, candidate)) (best, some (num', candidate))

theorem nearest_agree {pole : PoleInfo α} (same : (unused candidates).Perm (unused others))
    (untied : Untied parameters (unused candidates) pole) (bound : α) :
    Agree parameters candidates others (nearest pole candidates 0 bound none) (nearest pole others 0 bound none) := by
  have left := nearest_cases pole candidates bound
  have right := nearest_cases pole others bound
  generalize nearest pole candidates 0 bound none = first at left ⊢
  generalize nearest pole others 0 bound none = second at right ⊢
  cases left with
  | none far =>
    cases right with
    | none => exact .far (.inl rfl) (.inl rfl)
    | some num candidate found free near least =>
      have member := mem_unused.mp (same.symm.subset (mem_unused.mpr ⟨List.mem_of_getElem? found, free⟩))
      exact absurd near (not_lt.mpr (far candidate member.1 member.2))
  | some num candidate found free near least =>
    have mine := mem_unused.mpr ⟨List.mem_of_getElem? found, free⟩
    have offered := mem_unused.mp (same.subset mine)
    cases right with
    | none far => exact absurd near (not_lt.mpr (far candidate offered.1 offered.2))
    | some num' other found' free' near' least' =>
      have yours := same.symm.subset (mem_unused.mpr ⟨List.mem_of_getElem? found', free'⟩)
      have known := mem_unused.mp yours
      have equal : distanceToInlist pole candidate = distanceToInlist pole other :=
        le_antisymm (least other known.1 known.2) (least' candidate offered.1 offered.2)
      rcases lt_or_ge (distanceToInlist pole candidate) parameters.poleAssociationThreshold with reach | beyond
      · obtain rfl := untied candidate mine other yours reach equal
        exact .near reach free found found'
      · exact .far (.inr beyond) (.inr (equal ▸ beyond))

theorem associate_match {pole candidate : PoleInfo α} {rest : List (PoleInfo α)} {best : α} {num : Nat}
    (fresh : pole.isUpdated = false) (search : nearest pole candidates 0 1000 none = (best, some (num, candidate)))
    (reach : best < parameters.poleAssociationThreshold) : associate parameters (pole :: rest) candidates =
      let marked := candidates.modify num fun candidate => { candidate with isUsed := true }
      (matched parameters pole candidate :: (associate parameters rest marked).1, (associate parameters rest marked).2) := by
  simp [associate, fresh, search, reach]

theorem associate_miss {pole : PoleInfo α} {rest : List (PoleInfo α)} {best : α} {num : Option (Nat × PoleInfo α)}
    (fresh : pole.isUpdated = false) (search : nearest pole candidates 0 1000 none = (best, num))
    (far : num = none ∨ parameters.poleAssociationThreshold ≤ best) : associate parameters (pole :: rest) candidates =
      (missed pole :: (associate parameters rest candidates).1, (associate parameters rest candidates).2) := by
  cases num with
  | none => simp [associate, fresh, search]
  | some found =>
    have beyond := far.resolve_left (Option.some_ne_none found)
    simp [associate, fresh, search, not_lt.mpr beyond]

/-- One pole after another, what is left to pick from stays the same but for the order. -/
theorem associate_agree {poles : List (PoleInfo α)} (fresh : ∀ pole ∈ poles, pole.isUpdated = false)
    (same : (unused candidates).Perm (unused others))
    (untied : ∀ pole ∈ poles, Untied parameters (unused candidates) pole) :
    (associate parameters poles candidates).1 = (associate parameters poles others).1 ∧
      (unused (associate parameters poles candidates).2).Perm (unused (associate parameters poles others).2) := by
  induction poles generalizing candidates others with
  | nil => exact ⟨rfl, same⟩
  | cons pole rest ih =>
    obtain ⟨now, later⟩ := List.forall_mem_cons.mp fresh
    obtain ⟨here, onward⟩ := List.forall_mem_cons.mp untied
    have agree := nearest_agree same here 1000
    generalize search : nearest pole candidates 0 1000 none = first at agree
    generalize search' : nearest pole others 0 1000 none = second at agree
    cases agree with
    | far left right =>
      rw [associate_miss now search left, associate_miss now search' right]
      obtain ⟨poles, left⟩ := ih later same onward
      exact ⟨congrArg (List.cons _) poles, left⟩
    | near reach free found found' =>
      have mine := unused_modify found free
      have remaining := (mine.symm.trans (same.trans (unused_modify found' free))).cons_inv
      rw [associate_match now search reach, associate_match now search' reach]
      obtain ⟨poles, left⟩ := ih later remaining fun pole member first one second two =>
        onward pole member first (mine.symm.subset (List.mem_cons_of_mem _ one)) second
          (mine.symm.subset (List.mem_cons_of_mem _ two))
      exact ⟨congrArg (List.cons _) poles, left⟩

omit [Arithmetic α] in
/-- A pole whatever its id. -/
def unnamed (pole : PoleInfo α) : PoleInfo α := { pole with id := 0 }

omit [Arithmetic α] in
theorem unnamed_appended (poleNumCount count : Nat) (candidates : List (PoleInfo α)) :
    ((candidates.zipIdx count).map fun (candidate, index) =>
        { candidate with id := poleNumCount + index, detected := true }).map unnamed =
      candidates.map fun candidate => { candidate with id := 0, detected := true } := by
  rw [List.map_map]
  conv_rhs => rw [← List.zipIdx_map_fst count candidates, List.map_map]
  rfl

theorem cluster_order (parameters : DetectionParameters α) (node : PoleDetectionNode α)
    {candidates others : List (PoleInfo α)} (same : candidates.Perm others)
    (untied : ∀ pole ∈ node.poleList, Untied parameters candidates pole) :
    ∃ kept new new',
      (track parameters candidates node).poleList = kept ++ new ∧
      (track parameters others node).poleList = kept ++ new' ∧
      (kept.map PoleInfo.id).Sublist (node.poleList.map PoleInfo.id) ∧
      (∀ pole ∈ new ++ new', node.poleNumCount ≤ pole.id) ∧
      (new.map unnamed).Perm (new'.map unnamed) ∧
      (track parameters candidates node).poleNumCount = (track parameters others node).poleNumCount := by
  have alike (pole : PoleInfo α) (member : pole ∈ node.poleList.map reset) :
      Untied parameters (unused candidates) pole := by
    obtain ⟨old, held, rfl⟩ := List.mem_map.mp member
    exact fun first one second two => untied old held first (mem_unused.mp one).1 second (mem_unused.mp two).1
  have offered : (unused candidates).Perm (unused others) := same.filter _
  obtain ⟨poles, left⟩ := associate_agree (by simp [reset]) offered alike
  have older : ((eraseLost (associate parameters (node.poleList.map reset) candidates).1.length
      (associate parameters (node.poleList.map reset) candidates).1).map PoleInfo.id).Sublist
      (node.poleList.map PoleInfo.id) := by
    rw [eraseLost_eq _ _ (Nat.le_refl _), List.take_length, List.drop_length, List.append_nil, association_eq,
      ← settled_ids parameters candidates node.poleList]
    exact List.filter_sublist.map _
  rw [poles] at older
  simp only [track, appendNew_eq, poles]
  refine ⟨_, _, _, rfl, rfl, older, ?_, ?_, ?_⟩
  · simp only [List.mem_append, List.mem_map]
    intro pole new
    rcases new with ⟨_, _, rfl⟩ | ⟨_, _, rfl⟩ <;> exact Nat.le_add_right _ _
  · rw [unnamed_appended, unnamed_appended]
    exact left.map _
  · exact congrArg (fun count => node.poleNumCount + (0 + count)) left.length_eq

/-- One pole is tracked, and a frame shows two, in either order. -/
theorem cluster_order_two :
    let pole : PoleInfo ℝ := { PoleInfo.construct 1 0 0.1 with detected := true }
    let near : PoleInfo ℝ := .construct 1 0.1 0.1
    let far : PoleInfo ℝ := .construct 1 0.3 0.1
    ∃ kept new new', (track .declared [near, far] ⟨[pole], 1, [], false⟩).poleList = kept ++ new ∧
      (track .declared [far, near] ⟨[pole], 1, [], false⟩).poleList = kept ++ new' ∧
      (new.map unnamed).Perm (new'.map unnamed) := by
  intro pole near far
  have close : distanceToInlist pole near = 0.1 :=
    distanceToInlist_eq (by norm_num) (by norm_num [pole, near, PoleInfo.construct])
  have apart : distanceToInlist pole far = 0.3 :=
    distanceToInlist_eq (by norm_num) (by norm_num [pole, far, PoleInfo.construct])
  have untied : Untied .declared [near, far] pole := by
    have differ : (0.1 : ℝ) ≠ 0.3 := by norm_num
    intro first one second two _ equal
    simp only [List.mem_cons, List.not_mem_nil, or_false] at one two
    rcases one with rfl | rfl <;> rcases two with rfl | rfl
    · rfl
    · exact absurd (close.symm.trans (equal.trans apart)) differ
    · exact absurd (close.symm.trans (equal.symm.trans apart)) differ
    · rfl
  obtain ⟨kept, new, new', first, second, _, _, alike, _⟩ := cluster_order .declared ⟨[pole], 1, [], false⟩
    (List.Perm.swap far near []) (by simpa using untied)
  exact ⟨kept, new, new', first, second, alike⟩

end FlightStack.Proofs
