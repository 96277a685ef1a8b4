import FlightStack.Proofs.Candidates
import FlightStack.Proofs.PoleAgeing

/-! The list of poles is bounded. The poles of one age were all seen in one frame,
and a frame shows as many as it has candidates. -/

namespace FlightStack.Proofs
open PoleDetectionNode
variable {α : Type} [Arithmetic α] {pcl : Pcl α} {parameters : DetectionParameters α} {candidates : List (PoleInfo α)}
  {node : PoleDetectionNode α}

theorem updated_settled (parameters : DetectionParameters α) (candidates : List (PoleInfo α))
    (node : PoleDetectionNode α) : (settled parameters candidates node.poleList).map PoleInfo.isUpdated =
      (choices parameters candidates node.poleList).map Option.isSome := by
  apply List.ext_getElem (by simp [settled])
  intro index _ inside
  simp only [List.length_map, length_choices] at inside
  have held := List.getElem?_eq_getElem inside
  obtain ⟨choice, given⟩ := choice_exists parameters candidates held
  obtain ⟨_, chosen⟩ := List.getElem?_eq_some_iff.mp given
  simp only [settled, List.getElem_map, List.getElem_zipWith, chosen]
  cases choice with
  | none => rfl
  | some num =>
    obtain ⟨candidate, kept⟩ := kept_of_choice held given
    rw [kept.settled, kept.same, matched_isUpdated]
    rfl

/-- Every candidate is shown once: it renews a pole or it is new. -/
theorem shown_size (fresh : ∀ candidate ∈ candidates, Candidate candidate) :
    (shown parameters candidates node).size = candidates.length := by
  have renewed : (shown parameters candidates node).renewed.length =
      (choices parameters candidates node.poleList).countP Option.isSome := by
    have same := congrArg (List.countP id) (updated_settled parameters candidates node)
    rw [List.countP_map, List.countP_map] at same
    simpa [shown, association_eq, List.countP_eq_length_filter] using same
  have new : (shown parameters candidates node).fresh.length =
      (List.range candidates.length).countP (some · ∉ choices parameters candidates node.poleList) := by
    rw [List.range_eq_range', ← List.zipIdx_map_snd, List.countP_map, List.countP_eq_length_filter]
    simp [shown, track_eq parameters candidates node fresh, created, unclaimed, Function.comp_def]
  have below (num : Nat) (given : some num ∈ choices parameters candidates node.poleList) :
      num < candidates.length := by
    obtain ⟨index, given⟩ := List.mem_iff_getElem?.mp given
    have inside : index < node.poleList.length := by simpa using (List.getElem?_eq_some_iff.mp given).1
    obtain ⟨candidate, kept⟩ := kept_of_choice (List.getElem?_eq_getElem inside) given
    exact (List.getElem?_eq_some_iff.mp kept.found).1
  rw [Ageing.Frame.size, renewed, new, Nat.add_comm]
  exact Greedy.count_left (fun _ _ _ picked => (pick_cases picked).1) candidates.length below

/-- How many candidates the analyzed frames had, the latest first. -/
def detections (pcl : Pcl α) (parameters : DetectionParameters α) (history : PoleDetectionNode.History α) : List Nat :=
  ((history.filter analyzes).map fun entry => (frameCandidates pcl parameters entry.before).length).reverse

theorem sizes_eq (history : PoleDetectionNode.History α) :
    (frames pcl parameters history).reverse.map Ageing.Frame.size = detections pcl parameters history := by
  rw [detections, frames, ← List.map_reverse, ← List.map_reverse, List.map_map]
  exact List.map_congr_left fun entry _ => shown_size (frameCandidates_fresh entry.before)

omit [Arithmetic α] in
theorem countP_ages (node : PoleDetectionNode α) (age : Nat) :
    (ages node).countP (·.2 = age) = node.poleList.countP (·.lostCount = age) := by
  rw [ages, List.countP_map]
  rfl

theorem track_bound (pcl : Pcl α) (parameters : DetectionParameters α) {history : PoleDetectionNode.History α}
    {node : PoleDetectionNode α} (run : (poleDetectionNode pcl parameters).Run history node) :
    let detected (frame : Nat) := ((detections pcl parameters history)[frame]?).getD 0
    node.poleList.countP (·.lostCount = 0) = detected 0 ∧
    (∀ age, 1 ≤ age → age ≤ 5 → node.poleList.countP (·.lostCount = age) ≤ detected age) ∧
    (∀ pole ∈ node.poleList, pole.lostCount ≤ 5) ∧
    node.poleList.length ≤ ∑ age ∈ Finset.range 6, detected age := by
  intro detected
  have ageing := frames_run run
  have atMost (age : Nat) : node.poleList.countP (·.lostCount = age) ≤ detected age := by
    have bound := ageing.count_le age
    rwa [countP_ages, sizes_eq] at bound
  have newest := ageing.count_zero
  rw [countP_ages, sizes_eq] at newest
  refine ⟨newest, fun age _ _ => atMost age, (tracked_reachable run).recent, ?_⟩
  calc node.poleList.length = (ages node).length := by simp [ages]
    _ = ∑ age ∈ Finset.range 6, (ages node).countP (·.2 = age) := Ageing.length_eq_sum ageing.young
    _ ≤ ∑ age ∈ Finset.range 6, detected age := Finset.sum_le_sum fun age _ => countP_ages node age ▸ atMost age

/-- A stick is seen twice. -/
theorem track_bound_stick : ∃ history node, (poleDetectionNode (α := ℝ) .exact .declared).Run history node ∧
    node.poleList ≠ [] ∧
    node.poleList.length ≤ ∑ age ∈ Finset.range 6, ((detections .exact .declared history)[age]?).getD 0 := by
  obtain ⟨_, _, once, _⟩ := run_stick .refl (show 0.1 < 1 by norm_num) (by norm_num)
  obtain ⟨history, node, twice, some⟩ := run_stick once (show 0.1 < 1 by norm_num) (by norm_num)
  obtain ⟨_, _, _, bound⟩ := track_bound .exact .declared twice
  exact ⟨history, node, twice, some, bound⟩

end FlightStack.Proofs
