import FlightStack.Proofs.Candidates
import FlightStack.Proofs.PoleAgeing

/-! Tracked poles are plausible. The range and the diameter are checked on the
candidates; the filter keeps to the range because it is convex. -/

namespace FlightStack.Proofs
open PoleDetectionNode
variable {α : Type} [Arithmetic α] {pcl : Pcl α} {parameters : DetectionParameters α}

structure Plausible (parameters : DetectionParameters α) (pole : PoleInfo α) : Prop where
  x : parameters.publishXMin ≤ pole.x ∧ pole.x ≤ parameters.publishXMax
  y : parameters.publishYMin ≤ pole.y ∧ pole.y ≤ parameters.publishYMax
  distance : pole.distance = sqrt (pole.x * pole.x + pole.y * pole.y)
  diameter : 0 ≤ pole.diameter ∧ pole.diameter < parameters.poleRadiusThreshold

theorem candidate_plausible
    (corners : ∀ cluster, cluster ≠ [] → Pcl.Corners cluster (pcl.getMinMax3D cluster).1 (pcl.getMinMax3D cluster).2)
    {node : PoleDetectionNode α} {candidate : PoleInfo α} (member : candidate ∈ frameCandidates pcl parameters node) :
    Plausible parameters candidate := by
  obtain ⟨indices, _, analyzed, range⟩ := mem_detectedPoles.mp member
  have width := (corners _ analyzed.occupied).extent_nonneg .x
  simp only [isPositionInValidRange, Bool.and_eq_true, decide_eq_true_eq] at range
  obtain ⟨⟨⟨left, right⟩, bottom⟩, top⟩ := range
  refine ⟨⟨left, right⟩, ⟨bottom, top⟩, ?_, ?_⟩
  · rw [analyzed.same]
    rfl
  · rw [analyzed.same]
    exact ⟨width.trans (le_max_left _ _), analyzed.narrow⟩

/-- The low-pass filter stays between the old value and the new one. -/
theorem filter_between {alpha low high new old : α} (nonneg : 0 ≤ alpha) (atMost : alpha ≤ 1)
    (newIn : low ≤ new ∧ new ≤ high) (oldIn : low ≤ old ∧ old ≤ high) :
    low ≤ alpha * new + (1 - alpha) * old ∧ alpha * new + (1 - alpha) * old ≤ high := by
  have rest : 0 ≤ 1 - alpha := sub_nonneg.mpr atMost
  have lower := add_le_add (mul_le_mul_of_nonneg_left newIn.1 nonneg) (mul_le_mul_of_nonneg_left oldIn.1 rest)
  have upper := add_le_add (mul_le_mul_of_nonneg_left newIn.2 nonneg) (mul_le_mul_of_nonneg_left oldIn.2 rest)
  constructor
  · calc low = alpha * low + (1 - alpha) * low := by ring
      _ ≤ _ := lower
  · calc _ ≤ alpha * high + (1 - alpha) * high := upper
      _ = high := by ring

theorem Plausible.matched (nonneg : 0 ≤ parameters.filterAlpha) (atMost : parameters.filterAlpha ≤ 1)
    {old candidate : PoleInfo α} (known : Plausible parameters old) (seen : Plausible parameters candidate) :
    Plausible parameters (matched parameters (reset old) candidate) := by
  cases initialized : old.isInitialized with
  | true =>
    have same : PoleDetectionNode.matched parameters (reset old) candidate = _ := matched_filtered initialized
    have x := filter_between nonneg atMost seen.x known.x
    have y := filter_between nonneg atMost seen.y known.y
    exact same ▸ ⟨x, y, rfl, known.diameter⟩
  | false =>
    have same : PoleDetectionNode.matched parameters (reset old) candidate = _ := matched_first initialized
    exact same ▸ ⟨seen.x, seen.y, rfl, known.diameter⟩

theorem plausible_poles (pcl : Pcl α) (parameters : DetectionParameters α) (nonneg : 0 ≤ parameters.filterAlpha)
    (atMost : parameters.filterAlpha ≤ 1)
    (corners : ∀ cluster, cluster ≠ [] → Pcl.Corners cluster (pcl.getMinMax3D cluster).1 (pcl.getMinMax3D cluster).2)
    {history : PoleDetectionNode.History α} {node : PoleDetectionNode α}
    (run : (poleDetectionNode pcl parameters).Run history node) : ∀ pole ∈ node.poleList,
      (parameters.publishXMin ≤ pole.x ∧ pole.x ≤ parameters.publishXMax ∧
        parameters.publishYMin ≤ pole.y ∧ pole.y ≤ parameters.publishYMax) ∧
      pole.distance = sqrt (pole.x * pole.x + pole.y * pole.y) ∧
      0 ≤ pole.diameter ∧ pole.diameter < parameters.poleRadiusThreshold := by
  have held : ∀ pole ∈ node.poleList, Plausible parameters pole := by
    apply run.invariant (fun node => ∀ pole ∈ node.poleList, Plausible parameters pole)
    · simp [poleDetectionNode, initial]
    · intro before event after outputs taken ih
      rcases tracker_step taken with ⟨_, poles, _⟩ | ⟨_, tracked⟩
      · exact poles ▸ ih
      · intro pole member
        rw [tracked] at member
        cases arose (frameCandidates_fresh before) member with
        | kept kept =>
          have known := ih _ (List.mem_of_getElem? kept.tracked)
          have seen := candidate_plausible corners (List.mem_of_getElem? kept.found)
          exact kept.same ▸ known.matched nonneg atMost seen
        | aged held _ same =>
          have known := ih _ (List.mem_of_getElem? held)
          exact same ▸ ⟨known.x, known.y, known.distance, known.diameter⟩
        | new new =>
          have found := (mem_unclaimed.mp (List.mem_of_getElem? new.left)).1
          have seen := candidate_plausible corners (List.mem_of_getElem? found)
          exact new.same ▸ ⟨seen.x, seen.y, seen.distance, seen.diameter⟩
  intro pole member
  obtain ⟨⟨left, right⟩, ⟨bottom, top⟩, distance, diameter⟩ := held pole member
  exact ⟨⟨left, right, bottom, top⟩, distance, diameter⟩

/-- A stick is seen at two places. -/
theorem plausible_poles_stick : ∃ history node, (poleDetectionNode (α := ℝ) .exact .declared).Run history node ∧
    node.poleList ≠ [] ∧ ∀ pole ∈ node.poleList, 0.1 ≤ pole.x ∧ pole.x ≤ 2 := by
  obtain ⟨_, _, once, _⟩ := run_stick .refl (show 0.1 < 1 by norm_num) (by norm_num)
  obtain ⟨history, node, twice, some⟩ := run_stick once (show 0.1 < 1.1 by norm_num) (by norm_num)
  have inside := plausible_poles .exact .declared (by norm_num [DetectionParameters.declared])
    (by norm_num [DetectionParameters.declared]) (fun cluster => Pcl.minMax3D_corners) twice
  exact ⟨history, node, twice, some, fun pole member => ⟨(inside pole member).1.1, (inside pole member).1.2.1⟩⟩

end FlightStack.Proofs
