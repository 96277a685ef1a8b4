import FlightStack.Library.GreedyAssignment
import FlightStack.PoleDetection

/-! One frame of the tracker, without its loops. The association is a greedy pass
of the tracked poles over the candidates; the rest of the frame only filters and
numbers what the pass has settled. -/

namespace FlightStack.Proofs
open PoleDetectionNode
variable {α : Type} [Arithmetic α] {parameters : DetectionParameters α}

/-- A candidate as it comes out of the constructor. -/
def Candidate (pole : PoleInfo α) : Prop := ∃ x y diameter, pole = .construct x y diameter

theorem Candidate.fresh {pole : PoleInfo α} (candidate : Candidate pole) :
    pole.isUsed = false ∧ pole.lostCount = 0 := by
  obtain ⟨x, y, diameter, rfl⟩ := candidate
  exact ⟨rfl, rfl⟩

theorem distanceToInlist_eq {pole candidate : PoleInfo ℝ} {gap : ℝ} (nonneg : 0 ≤ gap)
    (square : (candidate.x - pole.x) ^ 2 + (candidate.y - pole.y) ^ 2 = gap ^ 2) : distanceToInlist pole candidate = gap := by
  change Real.sqrt ((candidate.x - pole.x) ^ 2 + (candidate.y - pole.y) ^ 2) = gap
  rw [square, Real.sqrt_sq nonneg]

/-! The inner loop -/

/-- The result of the inner loop: no candidate is closer than the bound it began
with, or the nearest one is. -/
inductive Nearest (pole : PoleInfo α) (candidates : List (PoleInfo α)) (bound : α) :
    α × Option (Nat × PoleInfo α) → Prop where
  | none (far : ∀ candidate ∈ candidates, candidate.isUsed = false → bound ≤ distanceToInlist pole candidate) :
      Nearest pole candidates bound (bound, none)
  | some (num : Nat) (candidate : PoleInfo α) (found : candidates[num]? = some candidate)
      (unused : candidate.isUsed = false) (near : distanceToInlist pole candidate < bound)
      (least : ∀ other ∈ candidates, other.isUsed = false →
        distanceToInlist pole candidate ≤ distanceToInlist pole other) :
      Nearest pole candidates bound (distanceToInlist pole candidate, some (num, candidate))

/-- From any point of the loop on, it keeps what it has or finds something nearer. -/
private theorem nearest_spec (pole : PoleInfo α) (candidates : List (PoleInfo α)) (start : Nat) (best : α)
    (num : Option (Nat × PoleInfo α)) :
    (nearest pole candidates start best num = (best, num) ∧
        ∀ candidate ∈ candidates, candidate.isUsed = false → best ≤ distanceToInlist pole candidate) ∨
      ∃ index candidate, nearest pole candidates start best num =
          (distanceToInlist pole candidate, some (start + index, candidate)) ∧
        candidates[index]? = some candidate ∧ candidate.isUsed = false ∧ distanceToInlist pole candidate < best ∧
        ∀ other ∈ candidates, other.isUsed = false →
          distanceToInlist pole candidate ≤ distanceToInlist pole other := by
  induction candidates generalizing start best num with
  | nil => exact .inl ⟨rfl, by simp⟩
  | cons first rest ih =>
    -- the tail, from whatever the head left behind
    have tail (least : α) (held : Option (Nat × PoleInfo α)) := ih (start + 1) least held
    unfold nearest
    split
    next used =>
      rcases tail best num with ⟨same, far⟩ | ⟨index, candidate, same, found, unused, near, least⟩
      · exact .inl ⟨same, by simpa [used] using far⟩
      · exact .inr ⟨index + 1, candidate, by rw [same, Nat.add_right_comm, Nat.add_assoc], found, unused, near,
          by simpa [used] using least⟩
    next fresh =>
      have fresh : first.isUsed = false := by simpa using fresh
      dsimp only
      split
      next nearer =>
        rcases tail (distanceToInlist pole first) (some (start, first)) with
          ⟨same, far⟩ | ⟨index, candidate, same, found, unused, near, least⟩
        · exact .inr ⟨0, first, same, rfl, fresh, nearer, by simpa [fresh] using far⟩
        · exact .inr ⟨index + 1, candidate, by rw [same, Nat.add_right_comm, Nat.add_assoc], found, unused,
            near.trans nearer, by simpa [fresh] using ⟨near.le, least⟩⟩
      next farther =>
        rcases tail best num with ⟨same, far⟩ | ⟨index, candidate, same, found, unused, near, least⟩
        · exact .inl ⟨same, by simpa [fresh] using ⟨not_lt.mp farther, far⟩⟩
        · exact .inr ⟨index + 1, candidate, by rw [same, Nat.add_right_comm, Nat.add_assoc], found, unused, near,
            by simpa [fresh] using ⟨near.le.trans (not_lt.mp farther), least⟩⟩

theorem nearest_cases (pole : PoleInfo α) (candidates : List (PoleInfo α)) (bound : α) :
    Nearest pole candidates bound (nearest pole candidates 0 bound none) := by
  rcases nearest_spec pole candidates 0 bound none with
    ⟨same, far⟩ | ⟨index, candidate, same, found, unused, near, least⟩
  · exact same ▸ .none far
  · rw [same, Nat.zero_add]
    exact .some index candidate found unused near least

/-! The outer loop -/

def marked (candidates : List (PoleInfo α)) (taken : List Nat) : List (PoleInfo α) :=
  candidates.mapIdx fun index candidate => if index ∈ taken then { candidate with isUsed := true } else candidate

/-- What a tracked pole picks. -/
def pick (parameters : DetectionParameters α) (candidates : List (PoleInfo α)) (pole : PoleInfo α)
    (taken : List Nat) : Option Nat :=
  match nearest pole (marked candidates taken) 0 1000 none with
  | (best, some (num, _)) => if best < parameters.poleAssociationThreshold then some num else none
  | (_, none) => none

def settle (parameters : DetectionParameters α) (candidates : List (PoleInfo α)) (pole : PoleInfo α)
    (choice : Option Nat) : PoleInfo α :=
  match choice.bind (candidates[·]?) with
  | some candidate => matched parameters pole candidate
  | none => missed pole

omit [Arithmetic α] in
theorem getElem?_marked (candidates : List (PoleInfo α)) (taken : List Nat) (index : Nat) :
    (marked candidates taken)[index]? = (candidates[index]?).map fun candidate =>
      if index ∈ taken then { candidate with isUsed := true } else candidate := by
  rw [marked, List.getElem?_mapIdx]

omit [Arithmetic α] in
theorem marked_unused {candidates : List (PoleInfo α)} {taken : List Nat} {index : Nat} {candidate : PoleInfo α}
    (found : (marked candidates taken)[index]? = some candidate) (unused : candidate.isUsed = false) :
    index ∉ taken ∧ candidates[index]? = some candidate := by
  rw [getElem?_marked, Option.map_eq_some_iff] at found
  obtain ⟨original, held, same⟩ := found
  split at same
  next =>
    rw [← same] at unused
    cases unused
  next free => exact ⟨free, same ▸ held⟩

omit [Arithmetic α] in
theorem marked_modify (candidates : List (PoleInfo α)) (taken : List Nat) (num : Nat) :
    (marked candidates taken).modify num (fun candidate => { candidate with isUsed := true }) =
      marked candidates (num :: taken) := by
  apply List.ext_getElem?
  intro index
  rw [List.getElem?_modify, getElem?_marked, getElem?_marked]
  cases candidates[index]? with
  | none => simp
  | some candidate => by_cases here : num = index <;> by_cases gone : index ∈ taken <;> simp [here, gone, eq_comm]

theorem pick_cases {candidates : List (PoleInfo α)} {pole : PoleInfo α} {taken : List Nat} {num : Nat}
    (picked : pick parameters candidates pole taken = some num) :
    num ∉ taken ∧ ∃ candidate, candidates[num]? = some candidate ∧
      distanceToInlist pole candidate < parameters.poleAssociationThreshold := by
  unfold pick at picked
  have search := nearest_cases pole (marked candidates taken) 1000
  generalize nearest pole (marked candidates taken) 0 1000 none = result at picked search
  cases search with
  | none => cases picked
  | some index candidate found unused near least =>
    dsimp only at picked
    split at picked
    next close =>
      cases picked
      obtain ⟨free, held⟩ := marked_unused found unused
      exact ⟨free, candidate, held, close⟩
    next => cases picked

/-- The outer loop is a greedy pass. -/
theorem associate_eq (parameters : DetectionParameters α) (candidates poles : List (PoleInfo α)) (taken : List Nat)
    (fresh : ∀ pole ∈ poles, pole.isUpdated = false) :
    associate parameters poles (marked candidates taken) =
      (List.zipWith (settle parameters candidates) poles (Greedy.assign (pick parameters candidates) poles taken),
        marked candidates (Greedy.gone (pick parameters candidates) poles taken)) := by
  induction poles generalizing taken with
  | nil => rfl
  | cons pole rest ih =>
    have later (taken : List Nat) := ih taken fun pole member => fresh pole (List.mem_cons_of_mem _ member)
    have search := nearest_cases pole (marked candidates taken) 1000
    have choice : pick parameters candidates pole taken = match nearest pole (marked candidates taken) 0 1000 none with
      | (best, some (num, _)) => if best < parameters.poleAssociationThreshold then some num else none
      | (_, none) => none := rfl
    simp only [associate, fresh pole List.mem_cons_self, Bool.false_eq_true, if_false, Greedy.assign, Greedy.gone]
    generalize nearest pole (marked candidates taken) 0 1000 none = result at search choice ⊢
    cases search with
    | none =>
      simp only at choice
      simp [choice, later, settle]
    | some num candidate found unused near least =>
      obtain ⟨_, held⟩ := marked_unused found unused
      dsimp only at choice ⊢
      split
      next close =>
        rw [if_pos close] at choice
        simp [choice, marked_modify, later, settle, held]
      next apart =>
        rw [if_neg apart] at choice
        simp [choice, later, settle]

/-! The erase loop and the append loop -/

omit [Arithmetic α] in
theorem eraseLost_eq (count : Nat) (poles : List (PoleInfo α)) (within : count ≤ poles.length) :
    eraseLost count poles = (poles.take count).filter (·.lostCount ≤ 5) ++ poles.drop count := by
  induction count generalizing poles with
  | zero => rfl
  | succ count ih =>
    have found := List.getElem?_eq_getElem within
    have prefixed : (poles.take count).length = count := List.length_take_of_le (Nat.le_of_succ_le within)
    rw [eraseLost, found, List.take_succ_eq_append_getElem within, List.filter_append]
    dsimp only
    split
    next lost =>
      rw [List.eraseIdx_eq_take_drop_succ, ih _ (by simp; omega), List.take_left' prefixed, List.drop_left' prefixed]
      simp [Nat.not_le.mpr lost]
    next kept =>
      rw [ih _ (Nat.le_of_succ_le within), List.drop_eq_getElem_cons within]
      simp [Nat.not_lt.mp kept]

omit [Arithmetic α] in
theorem appendNew_eq (poleNumCount : Nat) (candidates poles : List (PoleInfo α)) (count : Nat) :
    appendNew poleNumCount candidates poles count =
      (poles ++ ((candidates.filter (!·.isUsed)).zipIdx count).map fun (candidate, index) =>
          { candidate with id := poleNumCount + index, detected := true },
        count + (candidates.filter (!·.isUsed)).length) := by
  induction candidates generalizing poles count with
  | nil => simp [appendNew]
  | cons candidate rest ih =>
    cases used : candidate.isUsed with
    | true => simp [appendNew, used, ih]
    | false => simp [appendNew, used, ih]; omega

/-! The whole frame -/

def choices (parameters : DetectionParameters α) (candidates poles : List (PoleInfo α)) : List (Option Nat) :=
  Greedy.assign (pick parameters candidates) (poles.map reset) []

def settled (parameters : DetectionParameters α) (candidates poles : List (PoleInfo α)) : List (PoleInfo α) :=
  List.zipWith (settle parameters candidates) (poles.map reset) (choices parameters candidates poles)

def survivors (parameters : DetectionParameters α) (candidates poles : List (PoleInfo α)) : List (PoleInfo α) :=
  (settled parameters candidates poles).filter (·.lostCount ≤ 5)

/-- The candidates nobody was given, with their indices. -/
def unclaimed (parameters : DetectionParameters α) (candidates poles : List (PoleInfo α)) : List (PoleInfo α × Nat) :=
  candidates.zipIdx.filter fun entry => some entry.2 ∉ choices parameters candidates poles

/-- The new poles, numbered from `first` on. -/
def created (parameters : DetectionParameters α) (candidates poles : List (PoleInfo α)) (first : Nat) : List (PoleInfo α) :=
  (unclaimed parameters candidates poles).zipIdx.map fun (entry, index) =>
    { entry.1 with id := first + index, detected := true }

omit [Arithmetic α] in
theorem marked_nil (candidates : List (PoleInfo α)) : marked candidates [] = candidates := by
  apply List.ext_getElem?
  intro index
  simp [getElem?_marked]

theorem unused_marked {candidates : List (PoleInfo α)} (fresh : ∀ candidate ∈ candidates, Candidate candidate)
    (taken : List Nat) : (marked candidates taken).filter (!·.isUsed) =
      (candidates.zipIdx.filter fun entry => entry.2 ∉ taken).map Prod.fst := by
  have unmarked {entry : PoleInfo α × Nat} (member : entry ∈ candidates.zipIdx) : entry.1.isUsed = false :=
    (fresh entry.1 (List.mem_of_getElem? (List.mem_zipIdx_iff_getElem?.mp member))).fresh.1
  rw [marked, List.mapIdx_eq_zipIdx_map, List.filter_map]
  have same : candidates.zipIdx.filter ((!·.isUsed) ∘ fun entry =>
      if entry.2 ∈ taken then { entry.1 with isUsed := true } else entry.1) =
      candidates.zipIdx.filter fun entry => entry.2 ∉ taken := by
    apply List.filter_congr
    intro entry member
    by_cases gone : entry.2 ∈ taken <;> simp [gone, unmarked member]
  rw [same]
  apply List.map_congr_left
  intro entry member
  simp [of_decide_eq_true (List.mem_filter.mp member).2]

theorem association_eq (parameters : DetectionParameters α) (candidates poles : List (PoleInfo α)) :
    associate parameters (poles.map reset) candidates = (settled parameters candidates poles,
      marked candidates (Greedy.gone (pick parameters candidates) (poles.map reset) [])) := by
  have associated := associate_eq parameters candidates (poles.map reset) [] (by simp [reset])
  rwa [marked_nil] at associated

/-- A frame, without its loops. -/
theorem track_eq (parameters : DetectionParameters α) (candidates : List (PoleInfo α)) (node : PoleDetectionNode α)
    (fresh : ∀ candidate ∈ candidates, Candidate candidate) :
    track parameters candidates node = { node with
      poleList := survivors parameters candidates node.poleList ++
        created parameters candidates node.poleList node.poleNumCount,
      poleNumCount := node.poleNumCount + (created parameters candidates node.poleList node.poleNumCount).length } := by
  have left : (marked candidates (Greedy.gone (pick parameters candidates) (node.poleList.map reset) [])).filter
      (!·.isUsed) = (unclaimed parameters candidates node.poleList).map Prod.fst := by
    rw [unused_marked fresh, unclaimed, choices]
    congr 1
    apply List.filter_congr
    intro entry _
    simp [Greedy.mem_gone]
  simp only [track, association_eq, eraseLost_eq _ _ (Nat.le_refl _), List.take_length, List.drop_length, List.append_nil,
    appendNew_eq, left, survivors, created, List.zipIdx_map, List.map_map, List.length_map, List.length_zipIdx, Nat.zero_add]
  rfl

/-! Identities and order -/

omit [Arithmetic α] in
@[simp] theorem reset_id (pole : PoleInfo α) : (reset pole).id = pole.id := rfl

@[simp] theorem matched_id (pole candidate : PoleInfo α) : (matched parameters pole candidate).id = pole.id := by
  simp only [matched, update]
  split <;> rfl

@[simp] theorem settle_id (candidates : List (PoleInfo α)) (pole : PoleInfo α) (choice : Option Nat) :
    (settle parameters candidates pole choice).id = pole.id := by
  unfold settle
  split
  · exact matched_id _ _
  · rfl

@[simp] theorem length_choices (candidates poles : List (PoleInfo α)) :
    (choices parameters candidates poles).length = poles.length := by
  simp [choices]

theorem settled_ids (parameters : DetectionParameters α) (candidates poles : List (PoleInfo α)) :
    (settled parameters candidates poles).map PoleInfo.id = poles.map PoleInfo.id := by
  apply List.ext_getElem (by simp [settled])
  intro index _ _
  simp [settled, reset]

theorem created_ids (candidates poles : List (PoleInfo α)) (first : Nat) :
    (created parameters candidates poles first).map PoleInfo.id =
      List.range' first (created parameters candidates poles first).length := by
  apply List.ext_getElem (by simp)
  intro index _ _
  simp [created]

theorem settle_nil (pole : PoleInfo α) (choice : Option Nat) : settle parameters [] pole choice = missed pole := by
  cases choice <;> rfl

/-- A frame without candidates -/
theorem track_nil (node : PoleDetectionNode α) : (track parameters [] node).poleList =
    (node.poleList.map fun pole => missed (reset pole)).filter (·.lostCount ≤ 5) := by
  have none : settled parameters [] node.poleList = node.poleList.map fun pole => missed (reset pole) := by
    apply List.ext_getElem (by simp [settled])
    intro index _ _
    simp [settled, settle_nil]
  rw [track_eq parameters [] node (by simp), survivors, none]
  simp [created, unclaimed]

/-- The first candidates are all new. -/
theorem track_first (parameters : DetectionParameters α) {candidates : List (PoleInfo α)} (fresh : ∀ candidate ∈ candidates, Candidate candidate)
    (node : PoleDetectionNode α) (empty : node.poleList = []) :
    ((track parameters candidates node).poleList = [] ↔ candidates = []) ∧
      ∀ pole ∈ (track parameters candidates node).poleList, pole.lostCount = 0 := by
  rw [track_eq parameters candidates node fresh, empty]
  constructor
  · simp [survivors, settled, created, unclaimed, choices, Greedy.assign]
  · intro pole member
    obtain ⟨entry, listed, rfl⟩ : ∃ entry ∈ (unclaimed parameters candidates []).zipIdx,
        { entry.1.1 with id := node.poleNumCount + entry.2, detected := true } = pole := by
      simpa [survivors, settled, created] using member
    have offered := (List.mem_filter.mp (List.fst_mem_of_mem_zipIdx listed)).1
    exact (fresh _ (List.fst_mem_of_mem_zipIdx offered)).fresh.2

end FlightStack.Proofs
