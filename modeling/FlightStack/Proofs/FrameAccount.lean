import FlightStack.Proofs.PoleIdentities

/-! The account of one frame: where each candidate went, and what became of each
pole that was tracked before. -/

namespace FlightStack.Proofs
open PoleDetectionNode
variable {α : Type} [Arithmetic α] {parameters : DetectionParameters α}

/-- What the list of poles keeps from frame to frame. -/
structure Tracked (node : PoleDetectionNode α) : Prop where
  ids : (register node).Sound
  recent : ∀ pole ∈ node.poleList, pole.lostCount ≤ 5

omit [Arithmetic α] in
/-- A cloud that arrives does not touch the list. -/
theorem Tracked.received {node : PoleDetectionNode α} (known : Tracked node) (cloud : List (Point α)) (newData : Bool) :
    Tracked { node with cloud, newData } := ⟨known.ids, known.recent⟩

omit [Arithmetic α] in
theorem id_index {poles : List (PoleInfo α)} (distinct : (poles.map PoleInfo.id).Nodup) {first second : Nat}
    {pole other : PoleInfo α} (here : poles[first]? = some pole) (there : poles[second]? = some other)
    (same : pole.id = other.id) : first = second := by
  have inside : first < (poles.map PoleInfo.id).length := by
    rw [List.length_map]
    exact (List.getElem?_eq_some_iff.mp here).1
  exact (List.getElem?_inj inside distinct).mp (by simp [here, there, same])

omit [Arithmetic α] in
theorem Tracked.distinct {node : PoleDetectionNode α} (tracked : Tracked node) : (node.poleList.map PoleInfo.id).Nodup :=
  tracked.ids.ordered.imp Nat.ne_of_lt

omit [Arithmetic α] in
theorem Tracked.unique {node : PoleDetectionNode α} (tracked : Tracked node) {first second : Nat}
    {pole other : PoleInfo α} (here : node.poleList[first]? = some pole) (there : node.poleList[second]? = some other)
    (same : pole.id = other.id) : first = second :=
  id_index tracked.distinct here there same

section Pairs
variable (parameters) (candidates : List (PoleInfo α)) (node : PoleDetectionNode α)

structure Kept (num : Nat) (pole : PoleInfo α) (index : Nat) (old candidate : PoleInfo α) : Prop where
  tracked : node.poleList[index]? = some old
  given : (choices parameters candidates node.poleList)[index]? = some (some num)
  found : candidates[num]? = some candidate
  near : distanceToInlist old candidate < parameters.poleAssociationThreshold
  same : pole = matched parameters (reset old) candidate

structure New (num : Nat) (pole : PoleInfo α) (rank : Nat) (candidate : PoleInfo α) : Prop where
  left : (unclaimed parameters candidates node.poleList)[rank]? = some (candidate, num)
  same : pole = { candidate with id := node.poleNumCount + rank, detected := true }

/-- Where a candidate went. -/
inductive Paired (num : Nat) (pole : PoleInfo α) : Prop where
  | kept {index : Nat} {old candidate : PoleInfo α} (kept : Kept parameters candidates node num pole index old candidate)
  | new {rank : Nat} {candidate : PoleInfo α} (new : New parameters candidates node num pole rank candidate)

end Pairs

variable {candidates : List (PoleInfo α)} {node : PoleDetectionNode α}

theorem kept_of_choice {index num : Nat} {old : PoleInfo α} (tracked : node.poleList[index]? = some old)
    (given : (choices parameters candidates node.poleList)[index]? = some (some num)) :
    ∃ candidate, Kept parameters candidates node num (matched parameters (reset old) candidate) index old candidate := by
  have sound (pole : PoleInfo α) (taken : List Nat) (num : Nat)
      (picked : pick parameters candidates pole taken = some num) : ∃ candidate, candidates[num]? = some candidate ∧
        distanceToInlist pole candidate < parameters.poleAssociationThreshold := (pick_cases picked).2
  have asked : (node.poleList.map reset)[index]? = some (reset old) := by simp [tracked]
  obtain ⟨candidate, found, near⟩ := Greedy.assign_holds sound asked given
  exact ⟨candidate, tracked, given, found, near, rfl⟩

theorem mem_settled {pole : PoleInfo α} : pole ∈ settled parameters candidates node.poleList ↔
    ∃ (index : Nat) (old : PoleInfo α) (choice : Option Nat), node.poleList[index]? = some old ∧
      (choices parameters candidates node.poleList)[index]? = some choice ∧
      pole = settle parameters candidates (reset old) choice := by
  rw [List.mem_iff_getElem?]
  simp only [settled, List.getElem?_zipWith, List.getElem?_map]
  constructor
  · intro member
    obtain ⟨index, found⟩ := member
    cases tracked : node.poleList[index]? with
    | none => simp [tracked] at found
    | some old =>
      cases given : (choices parameters candidates node.poleList)[index]? with
      | none => simp [tracked, given] at found
      | some choice =>
        simp only [tracked, given, Option.map_some, Option.some.injEq] at found
        exact ⟨index, old, choice, tracked, given, found.symm⟩
  · intro found
    obtain ⟨index, old, choice, tracked, given, rfl⟩ := found
    exact ⟨index, by simp [tracked, given]⟩

theorem choice_exists (parameters : DetectionParameters α) (candidates : List (PoleInfo α)) {index : Nat}
    {old : PoleInfo α} (tracked : node.poleList[index]? = some old) :
    ∃ choice, (choices parameters candidates node.poleList)[index]? = some choice := by
  have inside := (List.getElem?_eq_some_iff.mp tracked).1
  exact ⟨_, List.getElem?_eq_getElem (by simpa using inside)⟩

theorem Kept.settled {num index : Nat} {pole old candidate : PoleInfo α}
    (kept : Kept parameters candidates node num pole index old candidate) :
    settle parameters candidates (reset old) (some num) = pole := by
  rw [kept.same, settle, Option.bind_some, kept.found]

/-! The pairing -/

theorem mem_created {pole : PoleInfo α} {first : Nat} : pole ∈ created parameters candidates node.poleList first ↔
    ∃ (rank : Nat) (candidate : PoleInfo α) (num : Nat),
      (unclaimed parameters candidates node.poleList)[rank]? = some (candidate, num) ∧
      pole = { candidate with id := first + rank, detected := true } := by
  rw [created, List.mem_map]
  constructor
  · intro found
    obtain ⟨⟨⟨candidate, num⟩, rank⟩, member, rfl⟩ := found
    exact ⟨rank, candidate, num, List.mk_mem_zipIdx_iff_getElem?.mp member, rfl⟩
  · intro numbered
    obtain ⟨rank, candidate, num, found, rfl⟩ := numbered
    exact ⟨((candidate, num), rank), List.mk_mem_zipIdx_iff_getElem?.mpr found, rfl⟩

theorem mem_unclaimed {num : Nat} {candidate : PoleInfo α} :
    (candidate, num) ∈ unclaimed parameters candidates node.poleList ↔
      candidates[num]? = some candidate ∧ some num ∉ choices parameters candidates node.poleList := by
  rw [unclaimed, List.mem_filter, List.mk_mem_zipIdx_iff_getElem?, decide_eq_true_eq]

theorem unclaimed_unique {first second num : Nat} {candidate other : PoleInfo α}
    (here : (unclaimed parameters candidates node.poleList)[first]? = some (candidate, num))
    (there : (unclaimed parameters candidates node.poleList)[second]? = some (other, num)) : first = second := by
  have distinct : ((unclaimed parameters candidates node.poleList).map Prod.snd).Nodup := by
    have whole : (candidates.zipIdx.map Prod.snd).Nodup := by
      rw [List.zipIdx_map_snd]
      exact List.nodup_range'
    exact whole.sublist (List.filter_sublist.map _)
  have inside : first < ((unclaimed parameters candidates node.poleList).map Prod.snd).length := by
    rw [List.length_map]
    exact (List.getElem?_eq_some_iff.mp here).1
  exact (List.getElem?_inj inside distinct).mp (by simp [here, there])

@[simp] theorem matched_lostCount (pole candidate : PoleInfo α) : (matched parameters pole candidate).lostCount = 0 := by
  simp only [matched, update]
  split <;> rfl

@[simp] theorem matched_detected (pole candidate : PoleInfo α) : (matched parameters pole candidate).detected = true := by
  simp only [matched, update]
  split <;> rfl

theorem choice_once {first second num : Nat}
    (here : (choices parameters candidates node.poleList)[first]? = some (some num))
    (there : (choices parameters candidates node.poleList)[second]? = some (some num)) : first = second :=
  Greedy.assign_once (fun _ _ _ picked => (pick_cases picked).1) here there

theorem Kept.id {num index : Nat} {pole old candidate : PoleInfo α}
    (kept : Kept parameters candidates node num pole index old candidate) : pole.id = old.id := by
  rw [kept.same, matched_id, reset]

theorem Kept.id_lt (tracked : Tracked node) {num index : Nat} {pole old candidate : PoleInfo α}
    (kept : Kept parameters candidates node num pole index old candidate) : pole.id < node.poleNumCount := by
  rw [kept.id]
  exact tracked.ids.given old.id (List.mem_map_of_mem (List.mem_of_getElem? kept.tracked))

theorem New.id {num rank : Nat} {pole candidate : PoleInfo α}
    (new : New parameters candidates node num pole rank candidate) : pole.id = node.poleNumCount + rank := by
  rw [new.same]

theorem Paired.functional {num : Nat} {pole other : PoleInfo α} (here : Paired parameters candidates node num pole)
    (there : Paired parameters candidates node num other) : pole = other := by
  cases here with
  | kept here =>
    cases there with
    | kept there =>
      have index := choice_once here.given there.given
      have old := here.tracked.symm.trans (index ▸ there.tracked)
      have candidate := here.found.symm.trans there.found
      rw [here.same, there.same, Option.some.inj old, Option.some.inj candidate]
    | new there =>
      exact absurd (List.mem_of_getElem? here.given) (mem_unclaimed.mp (List.mem_of_getElem? there.left)).2
  | new here =>
    cases there with
    | kept there =>
      exact absurd (List.mem_of_getElem? there.given) (mem_unclaimed.mp (List.mem_of_getElem? here.left)).2
    | new there =>
      have rank := unclaimed_unique here.left there.left
      have entry := here.left.symm.trans (rank ▸ there.left)
      rw [here.same, there.same, rank, (Prod.mk.inj (Option.some.inj entry)).1]

theorem Paired.injective (tracked : Tracked node) {num other : Nat} {pole : PoleInfo α}
    (here : Paired parameters candidates node num pole) (there : Paired parameters candidates node other pole) :
    num = other := by
  cases here with
  | kept here =>
    cases there with
    | kept there =>
      have index := tracked.unique here.tracked there.tracked (here.id.symm.trans there.id)
      have choice := here.given.symm.trans (index ▸ there.given)
      exact Option.some.inj (Option.some.inj choice)
    | new there =>
      have := here.id_lt tracked
      have := there.id
      omega
  | new here =>
    cases there with
    | kept there =>
      have := there.id_lt tracked
      have := here.id
      omega
    | new there =>
      have rank : _ = _ := Nat.add_left_cancel (here.id.symm.trans there.id)
      exact (Prod.mk.inj (Option.some.inj (here.left.symm.trans (rank ▸ there.left)))).2

theorem Paired.total (parameters : DetectionParameters α) (node : PoleDetectionNode α) {num : Nat}
    (inside : num < candidates.length) :
    ∃ pole, Paired parameters candidates node num pole := by
  by_cases claimed : some num ∈ choices parameters candidates node.poleList
  · obtain ⟨index, given⟩ := List.mem_iff_getElem?.mp claimed
    have within : index < node.poleList.length := by
      simpa using (List.getElem?_eq_some_iff.mp given).1
    obtain ⟨candidate, kept⟩ := kept_of_choice (List.getElem?_eq_getElem within) given
    exact ⟨_, .kept kept⟩
  · have free : (candidates[num], num) ∈ unclaimed parameters candidates node.poleList :=
      mem_unclaimed.mpr ⟨List.getElem?_eq_getElem inside, claimed⟩
    obtain ⟨rank, left⟩ := List.mem_iff_getElem?.mp free
    exact ⟨_, .new ⟨left, rfl⟩⟩

theorem Paired.inside {num : Nat} {pole : PoleInfo α} (paired : Paired parameters candidates node num pole) :
    num < candidates.length := by
  cases paired with
  | kept kept => exact (List.getElem?_eq_some_iff.mp kept.found).1
  | new new => exact (List.getElem?_eq_some_iff.mp (mem_unclaimed.mp (List.mem_of_getElem? new.left)).1).1

/-! The list after the frame -/

theorem Kept.survives {num index : Nat} {pole old candidate : PoleInfo α}
    (kept : Kept parameters candidates node num pole index old candidate) :
    pole ∈ survivors parameters candidates node.poleList := by
  refine List.mem_filter.mpr ⟨mem_settled.mpr ⟨index, old, _, kept.tracked, kept.given, kept.settled.symm⟩, ?_⟩
  simp [kept.same]

theorem detected_iff {pole : PoleInfo α} :
    pole ∈ survivors parameters candidates node.poleList ++
        created parameters candidates node.poleList node.poleNumCount ∧ pole.detected = true ↔
      ∃ num, Paired parameters candidates node num pole := by
  rw [List.mem_append]
  constructor
  · intro held
    obtain ⟨old | new, detected⟩ := held
    · obtain ⟨index, old, choice, tracked, given, rfl⟩ := mem_settled.mp (List.mem_filter.mp old).1
      cases choice with
      | none => cases detected
      | some num =>
        obtain ⟨candidate, kept⟩ := kept_of_choice tracked given
        exact ⟨num, .kept (kept.settled ▸ kept)⟩
    · obtain ⟨rank, candidate, num, left, same⟩ := mem_created.mp new
      exact ⟨num, .new ⟨left, same⟩⟩
  · intro found
    obtain ⟨num, kept | new⟩ := found
    · exact ⟨.inl kept.survives, by simp [kept.same]⟩
    · exact ⟨.inr (mem_created.mpr ⟨_, _, _, new.left, new.same⟩), by simp [new.same]⟩

/-- What becomes of a pole that no candidate was given to. -/
def aged (pole : PoleInfo α) : PoleInfo α :=
  { pole with lostCount := pole.lostCount + 1, detected := false, isUpdated := false }

/-- How a pole comes to be in the list after a frame. -/
inductive Arose (parameters : DetectionParameters α) (candidates : List (PoleInfo α)) (node : PoleDetectionNode α)
    (pole : PoleInfo α) : Prop where
  | kept {num index : Nat} {old candidate : PoleInfo α}
      (kept : Kept parameters candidates node num pole index old candidate)
  | aged {index : Nat} {old : PoleInfo α} (held : node.poleList[index]? = some old)
      (given : (choices parameters candidates node.poleList)[index]? = some none) (same : pole = aged old)
  | new {num rank : Nat} {candidate : PoleInfo α} (new : New parameters candidates node num pole rank candidate)

theorem arose (fresh : ∀ candidate ∈ candidates, Candidate candidate) {pole : PoleInfo α}
    (member : pole ∈ (track parameters candidates node).poleList) : Arose parameters candidates node pole := by
  rw [track_eq parameters candidates node fresh] at member
  rcases List.mem_append.mp member with old | new
  · obtain ⟨index, old, choice, held, given, rfl⟩ := mem_settled.mp (List.mem_filter.mp old).1
    cases choice with
    | none => exact .aged held given rfl
    | some num =>
      obtain ⟨candidate, kept⟩ := kept_of_choice held given
      exact .kept (kept.settled ▸ kept)
  · obtain ⟨rank, candidate, num, left, same⟩ := mem_created.mp new
    exact .new ⟨left, same⟩

/-- The account of a frame in which each candidate went to its `pole`. -/
structure Account (parameters : DetectionParameters α) (candidates : List (PoleInfo α))
    (before after : PoleDetectionNode α) (pole : Fin candidates.length → PoleInfo α) : Prop where
  bijective : Set.BijOn pole Set.univ {tracked | tracked ∈ after.poleList ∧ tracked.detected = true}
  paired : ∀ num,
    (∃ old ∈ before.poleList, distanceToInlist old candidates[num] < parameters.poleAssociationThreshold ∧
      (pole num).id = old.id ∧ (pole num).lostCount = 0) ∨
    (before.poleNumCount ≤ (pole num).id ∧ (pole num).x = candidates[num].x ∧ (pole num).y = candidates[num].y ∧
      (pole num).diameter = candidates[num].diameter)
  missed : ∀ old ∈ before.poleList, (∀ num, (pole num).id ≠ old.id) → old.lostCount + 1 ≠ 6 → aged old ∈ after.poleList
  removed : ∀ old ∈ before.poleList, (∀ tracked ∈ after.poleList, tracked.id ≠ old.id) ↔
    (∀ num, (pole num).id ≠ old.id) ∧ old.lostCount + 1 = 6
  ordered : ∃ kept new, after.poleList = kept ++ new ∧
    List.Sublist (kept.map PoleInfo.id) (before.poleList.map PoleInfo.id) ∧
    ∀ tracked ∈ new, before.poleNumCount ≤ tracked.id
  distinct : (after.poleList.map PoleInfo.id).Nodup

theorem old_cases (parameters : DetectionParameters α) (candidates : List (PoleInfo α)) {index : Nat}
    {old : PoleInfo α} (held : node.poleList[index]? = some old) :
    (∃ num pole candidate, Kept parameters candidates node num pole index old candidate) ∨
      (choices parameters candidates node.poleList)[index]? = some none ∧
        aged old ∈ settled parameters candidates node.poleList := by
  obtain ⟨choice, given⟩ := choice_exists parameters candidates held
  cases choice with
  | none => exact .inr ⟨given, mem_settled.mpr ⟨index, old, none, held, given, rfl⟩⟩
  | some num =>
    obtain ⟨candidate, kept⟩ := kept_of_choice held given
    exact .inl ⟨num, _, candidate, kept⟩

theorem survivor_cases (tracked : Tracked node) {pole old : PoleInfo α}
    (survives : pole ∈ survivors parameters candidates node.poleList) (held : old ∈ node.poleList)
    (same : pole.id = old.id) : (∃ num, Paired parameters candidates node num pole) ∨ pole = aged old := by
  obtain ⟨index, found⟩ := List.mem_iff_getElem?.mp held
  obtain ⟨place, other, choice, there, given, rfl⟩ := mem_settled.mp (List.mem_filter.mp survives).1
  obtain rfl := tracked.unique there found (by simpa [reset] using same)
  cases there.symm.trans found
  cases choice with
  | none => exact .inr rfl
  | some num =>
    obtain ⟨candidate, kept⟩ := kept_of_choice there given
    exact .inl ⟨num, .kept (kept.settled ▸ kept)⟩

theorem Paired.elsewhere (tracked : Tracked node) {num index : Nat} {pole old : PoleInfo α}
    (paired : Paired parameters candidates node num pole) (held : node.poleList[index]? = some old)
    (given : (choices parameters candidates node.poleList)[index]? = some none) : pole.id ≠ old.id := by
  intro same
  cases paired with
  | kept kept =>
    have place := tracked.unique kept.tracked held (kept.id.symm.trans same)
    cases (place ▸ kept.given).symm.trans given
  | new new =>
    have := tracked.ids.given old.id (List.mem_map_of_mem (List.mem_of_getElem? held))
    have := new.id
    simp only [register] at *
    omega

theorem aged_survives (tracked : Tracked node) {old : PoleInfo α} (held : old ∈ node.poleList)
    (aging : aged old ∈ settled parameters candidates node.poleList) (count : old.lostCount + 1 ≠ 6) :
    aged old ∈ survivors parameters candidates node.poleList := by
  have recent := tracked.recent old held
  apply List.mem_filter.mpr
  exact ⟨aging, by simp [aged]; omega⟩

theorem Paired.account {num : Fin candidates.length} {pole : PoleInfo α}
    (paired : Paired parameters candidates node num pole) :
    (∃ old ∈ node.poleList, distanceToInlist old candidates[num] < parameters.poleAssociationThreshold ∧
      pole.id = old.id ∧ pole.lostCount = 0) ∨
    (node.poleNumCount ≤ pole.id ∧ pole.x = candidates[num].x ∧ pole.y = candidates[num].y ∧
      pole.diameter = candidates[num].diameter) := by
  cases paired with
  | kept kept =>
    have candidate := Option.some.inj (kept.found.symm.trans (List.getElem?_eq_getElem num.isLt))
    exact .inl ⟨_, List.mem_of_getElem? kept.tracked, candidate ▸ kept.near, kept.id, by simp [kept.same]⟩
  | new new =>
    have found := (mem_unclaimed.mp (List.mem_of_getElem? new.left)).1
    have candidate := Option.some.inj (found.symm.trans (List.getElem?_eq_getElem num.isLt))
    refine .inr ⟨new.id ▸ Nat.le_add_right _ _, ?_⟩
    rw [new.same, candidate]
    exact ⟨rfl, rfl, rfl⟩

/-- A pole that no candidate went to is still there, one frame older, unless it is lost. -/
theorem missed_survives (tracked : Tracked node) {old : PoleInfo α} (held : old ∈ node.poleList)
    (missing : ∀ num pole, Paired parameters candidates node num pole → pole.id ≠ old.id)
    (count : old.lostCount + 1 ≠ 6) : aged old ∈ survivors parameters candidates node.poleList := by
  obtain ⟨index, found⟩ := List.mem_iff_getElem?.mp held
  rcases old_cases parameters candidates found with ⟨num, other, candidate, kept⟩ | ⟨_, aging⟩
  · exact absurd kept.id (missing num other (.kept kept))
  · exact aged_survives tracked held aging count

theorem removed_iff (tracked : Tracked node) {old : PoleInfo α} (held : old ∈ node.poleList) :
    (∀ other ∈ survivors parameters candidates node.poleList ++
        created parameters candidates node.poleList node.poleNumCount, other.id ≠ old.id) ↔
      (∀ num pole, Paired parameters candidates node num pole → pole.id ≠ old.id) ∧ old.lostCount + 1 = 6 := by
  obtain ⟨index, found⟩ := List.mem_iff_getElem?.mp held
  constructor
  · intro gone
    rcases old_cases parameters candidates found with ⟨num, other, candidate, kept⟩ | ⟨given, aging⟩
    · exact absurd kept.id (gone other (List.mem_append_left _ kept.survives))
    · refine ⟨fun num pole paired => paired.elsewhere tracked found given, ?_⟩
      by_contra count
      exact gone _ (List.mem_append_left _ (aged_survives tracked held aging count)) rfl
  · intro ⟨missing, count⟩ other member same
    rcases List.mem_append.mp member with survives | new
    · rcases survivor_cases tracked survives held same with ⟨num, there⟩ | rfl
      · exact missing num other there same
      · have kept := of_decide_eq_true (List.mem_filter.mp survives).2
        simp only [aged] at kept
        omega
    · have given := tracked.ids.given old.id (List.mem_map_of_mem held)
      obtain ⟨rank, candidate, num, _, rfl⟩ := mem_created.mp new
      simp only [register] at given same
      omega

theorem frame_account (parameters : DetectionParameters α) (candidates : List (PoleInfo α)) (node : PoleDetectionNode α)
    (tracked : Tracked node) (fresh : ∀ candidate ∈ candidates, Candidate candidate) :
    ∃ pole, Account parameters candidates node (track parameters candidates node) pole := by
  have after := congrArg PoleDetectionNode.poleList (track_eq parameters candidates node fresh)
  simp only at after
  choose pole paired using fun num : Fin candidates.length =>
    Paired.total parameters node num.isLt
  have goes {num : Nat} {other : PoleInfo α} (there : Paired parameters candidates node num other) :
      pole ⟨num, there.inside⟩ = other := (paired ⟨num, there.inside⟩).functional there
  have missed {old : PoleInfo α} : (∀ num, (pole num).id ≠ old.id) ↔
      ∀ num other, Paired parameters candidates node num other → other.id ≠ old.id := by
    constructor
    · exact fun missing num other there => goes there ▸ missing _
    · exact fun missing num => missing num _ (paired num)
  refine ⟨pole, ⟨?_, ?_, ?_⟩, fun num => (paired num).account, ?_, ?_, ?_, ?_⟩
  · exact fun num _ => after ▸ detected_iff.mpr ⟨num, paired num⟩
  · exact fun num _ other _ same => Fin.ext ((paired num).injective tracked (same ▸ paired other))
  · intro other member
    obtain ⟨num, there⟩ := detected_iff.mp (after ▸ member)
    exact ⟨⟨num, there.inside⟩, trivial, goes there⟩
  · intro old held missing count
    exact after ▸ List.mem_append_left _ (missed_survives tracked held (missed.mp missing) count)
  · intro old held
    rw [after, missed]
    exact removed_iff tracked held
  · refine ⟨_, _, after, ?_, ?_⟩
    · rw [← settled_ids parameters candidates node.poleList]
      exact List.filter_sublist.map _
    · intro other new
      obtain ⟨rank, candidate, num, _, rfl⟩ := mem_created.mp new
      exact Nat.le_add_right _ _
  · exact ((track_step candidates node fresh).sound tracked.ids).ordered.imp Nat.ne_of_lt

/-- One pole is tracked, and a frame shows two. -/
theorem frame_account_two :
    let pole : PoleInfo ℝ := { PoleInfo.construct 1 0 0.1 with detected := true }
    let candidates : List (PoleInfo ℝ) := [.construct 1 0.1 0.1, .construct 0.5 (-0.9) 0.1]
    ∃ went, Account .declared candidates ⟨[pole], 1, [], false⟩
      (track .declared candidates ⟨[pole], 1, [], false⟩) went := by
  intro pole candidates
  refine frame_account .declared candidates ⟨[pole], 1, [], false⟩ ⟨⟨?_, ?_⟩, ?_⟩ ?_
  · simp [register]
  · simp [register, pole, PoleInfo.construct]
  · simp [pole, PoleInfo.construct]
  · simp [candidates, Candidate]

theorem track_recent (fresh : ∀ candidate ∈ candidates, Candidate candidate) :
    ∀ pole ∈ (track parameters candidates node).poleList, pole.lostCount ≤ 5 := by
  intro pole member
  rw [track_eq parameters candidates node fresh] at member
  rcases List.mem_append.mp member with old | new
  · exact of_decide_eq_true (List.mem_filter.mp old).2
  · obtain ⟨rank, candidate, num, left, rfl⟩ := mem_created.mp new
    have found := (mem_unclaimed.mp (List.mem_of_getElem? left)).1
    simp [(fresh candidate (List.mem_of_getElem? found)).fresh.2]

theorem tracked_reachable {pcl : Pcl α} {history : PoleDetectionNode.History α}
    (run : (poleDetectionNode pcl parameters).Run history node) : Tracked node := by
  refine ⟨register_sound run, ?_⟩
  apply run.invariant (fun node => ∀ pole ∈ node.poleList, pole.lostCount ≤ 5) (by simp [poleDetectionNode, initial])
  intro before event after outputs taken recent
  cases worked_cases taken with
  | receive | wait => exact recent
  | analyze _ _ tracked =>
    subst tracked
    exact track_recent (detectedPoles_candidates _ _)

/-- A frame without candidates also takes back that the last one updated a pole. -/
theorem mark_cleared : ∃ (first : PoleInfo ℝ) (node : PoleDetectionNode ℝ) (old : PoleInfo ℝ), Candidate first ∧
    node = track .declared [first] (track .declared [first] .initial) ∧ Tracked node ∧ node.poleList = [old] ∧
    old.lostCount + 1 ≠ 6 ∧
    { old with lostCount := old.lostCount + 1, detected := false } ∉ (track .declared [] node).poleList := by
  have here : sqrt (0 : ℝ) = 0 := Real.sqrt_zero
  have appended : track .declared [PoleInfo.construct 1 0 0.1] .initial =
      (⟨[{ PoleInfo.construct 1 0 0.1 with detected := true }], 1, [], false⟩ : PoleDetectionNode ℝ) := by
    simp [track, associate, eraseLost, appendNew, initial, PoleInfo.construct]
  have again : track .declared [PoleInfo.construct 1 0 0.1] (track .declared [PoleInfo.construct 1 0 0.1] .initial) =
      (⟨[{ PoleInfo.construct 1 0 0.1 with detected := true, isUpdated := true, isInitialized := true }], 1, [], false⟩ :
        PoleDetectionNode ℝ) := by
    have close : (0 : ℝ) < 0.5 := by norm_num
    rw [appended]
    simp [track, associate, nearest, distanceToInlist, eraseLost, appendNew, PoleInfo.construct, here, close,
      DetectionParameters.declared, matched, update, reset, calculateDistance]
  refine ⟨_, _, _, ⟨1, 0, 0.1, rfl⟩, again.symm, ⟨⟨?_, ?_⟩, ?_⟩, rfl, ?_, ?_⟩
  · simp [register]
  · simp [register, PoleInfo.construct]
  · simp [PoleInfo.construct]
  · simp [PoleInfo.construct]
  · simp [track, associate, nearest, eraseLost, appendNew, PoleInfo.construct, reset, missed]

end FlightStack.Proofs
