import FlightStack.Proofs.BlockingPairs
import FlightStack.Proofs.Candidates
import FlightStack.Proofs.PoleAgeing

/-! The low-pass filter. Its state begins with the first match of a pole, which
takes the detection as it is; from the second match on the position is filtered. -/

namespace FlightStack.Proofs
open PoleDetectionNode
variable {α : Type} [Arithmetic α] {pcl : Pcl α} {parameters : DetectionParameters α}

/-- Some frame has matched the pole that carries the id. -/
def Matched (frames : List (Ageing.Frame Nat)) (id : Nat) : Prop := ∃ frame ∈ frames, id ∈ frame.renewed

/-- A pole is initialized once it has been matched. -/
structure Filtering (frames : List (Ageing.Frame Nat)) (node : PoleDetectionNode α) : Prop where
  given : ∀ id, Matched frames id → id < node.poleNumCount
  initialized : ∀ pole ∈ node.poleList, pole.isInitialized = true ↔ Matched frames pole.id

theorem matched_snoc {frames : List (Ageing.Frame Nat)} {frame : Ageing.Frame Nat} {id : Nat} :
    Matched (frames ++ [frame]) id ↔ Matched frames id ∨ id ∈ frame.renewed := by
  simp only [Matched, List.mem_append, List.mem_singleton, or_and_right, exists_or, exists_eq_left]

@[simp] theorem matched_isInitialized (pole candidate : PoleInfo α) :
    (matched parameters pole candidate).isInitialized = true := by
  simp only [matched, update]
  split <;> simp_all

theorem renewed_given {node : PoleDetectionNode α} {candidates : List (PoleInfo α)} (tracked : Tracked node) {id : Nat}
    (renewed : id ∈ (shown parameters candidates node).renewed) : id < node.poleNumCount := by
  have live := (shown_fits tracked).renewed.subset renewed
  simp only [ages, List.map_map] at live
  exact tracked.ids.given id live

theorem filtering_track {frames : List (Ageing.Frame Nat)} {node : PoleDetectionNode α} {candidates : List (PoleInfo α)}
    (tracked : Tracked node) (fresh : ∀ candidate ∈ candidates, Candidate candidate) (filtering : Filtering frames node) :
    Filtering (frames ++ [shown parameters candidates node]) (track parameters candidates node) := by
  constructor
  · intro id matched
    have grows : node.poleNumCount ≤ (track parameters candidates node).poleNumCount :=
      (track_step candidates node fresh).later.1
    rcases matched_snoc.mp matched with old | new
    · exact (filtering.given id old).trans_le grows
    · exact (renewed_given tracked new).trans_le grows
  · intro pole member
    rw [matched_snoc]
    cases arose fresh member with
    | kept kept =>
      have renewed := (updated_iff tracked kept.tracked).mpr ⟨_, kept.given⟩
      rw [← kept.id] at renewed
      exact iff_of_true (by simp [kept.same]) (.inr renewed)
    | @aged index old there given same =>
      have missed := missed_unrenewed tracked there given
      have before := filtering.initialized old (List.mem_of_getElem? there)
      rw [same]
      simpa [aged, missed] using before
    | new new =>
      have found := (mem_unclaimed.mp (List.mem_of_getElem? new.left)).1
      obtain ⟨x, y, diameter, rfl⟩ := fresh _ (List.mem_of_getElem? found)
      have id := new.id
      apply iff_of_false (by simp [new.same, PoleInfo.construct])
      intro matched
      rcases matched with old | renewed
      · have := filtering.given _ old
        omega
      · have := renewed_given tracked renewed
        omega

theorem filtering_run {history : PoleDetectionNode.History α} {node : PoleDetectionNode α}
    (run : (poleDetectionNode pcl parameters).Run history node) : Filtering (frames pcl parameters history) node := by
  induction run with
  | refl =>
    refine ⟨?_, by simp [poleDetectionNode, initial]⟩
    intro id matched
    obtain ⟨frame, member, _⟩ := matched
    cases member
  | @snoc before after history event outputs earlier taken ih =>
    rw [frames_snoc]
    rcases tracker_step taken with ⟨waits, poles, count⟩ | ⟨analyzed, tracked⟩
    · obtain ⟨given, initialized⟩ := ih
      simp only [waits, Bool.false_eq_true, if_false, List.append_nil]
      exact ⟨count ▸ given, poles ▸ initialized⟩
    · have known := (tracked_reachable earlier).received before.cloud false
      have same : Filtering (frames pcl parameters history) { before with newData := false } :=
        ⟨ih.given, ih.initialized⟩
      rw [if_pos analyzed, tracked]
      exact filtering_track known (frameCandidates_fresh before) same

/-- What a frame makes of a pole that was matched. -/
theorem filtered_updates (pcl : Pcl α) (parameters : DetectionParameters α) {history : PoleDetectionNode.History α}
    {entry : Entry (PoleDetectionNode α) (Event α) (List (Pole α))}
    (run : (poleDetectionNode pcl parameters).Run history entry.before)
    (taken : (poleDetectionNode pcl parameters).step entry.before entry.event = some (entry.after, entry.outputs))
    (analyzed : analyzes entry = true) :
    let candidates := frameCandidates pcl parameters entry.before
    let alpha := parameters.filterAlpha
    ∀ (index num : Nat) (old detection : PoleInfo α), entry.before.poleList[index]? = some old →
      (choices parameters candidates entry.before.poleList)[index]? = some (some num) →
      candidates[num]? = some detection →
      ∃ pole ∈ entry.after.poleList, pole.id = old.id ∧
        (Matched (frames pcl parameters history) old.id →
          pole.x = alpha * detection.x + (1 - alpha) * old.x ∧ pole.y = alpha * detection.y + (1 - alpha) * old.y ∧
          pole.x - old.x = alpha * (detection.x - old.x) ∧ pole.y - old.y = alpha * (detection.y - old.y)) ∧
        (¬ Matched (frames pcl parameters history) old.id → pole.x = detection.x ∧ pole.y = detection.y) := by
  intro candidates alpha index num old detection held given found
  have tracked : entry.after = track parameters candidates { entry.before with newData := false } := by
    rcases tracker_step taken with ⟨waits, _⟩ | ⟨_, tracked⟩
    · rw [waits] at analyzed
      cases analyzed
    · exact tracked
  obtain ⟨candidate, kept⟩ := kept_of_choice held given
  cases kept.found.symm.trans found
  have after : matched parameters (reset old) detection ∈ entry.after.poleList := by
    rw [tracked, track_eq parameters _ _ (frameCandidates_fresh entry.before)]
    exact List.mem_append_left _ kept.survives
  have state := (filtering_run run).initialized old (List.mem_of_getElem? held)
  refine ⟨_, after, by simp, fun known => ?_, fun unknown => ?_⟩
  · rw [matched_filtered (show (reset old).isInitialized = true from state.mpr known)]
    refine ⟨rfl, rfl, ?_, ?_⟩ <;> simp only [reset] <;> ring
  · have first : old.isInitialized = false := by simpa using state.not.mpr unknown
    rw [matched_first (show (reset old).isInitialized = false from first)]
    exact ⟨rfl, rfl⟩

/-! A stick is seen, and then again not far from there -/

/-- The pole at the head of the list is the first to pick. -/
theorem head_matched {node : PoleDetectionNode α} {candidates : List (PoleInfo α)} {old : PoleInfo α}
    (fresh : ∀ candidate ∈ candidates, Candidate candidate) (head : node.poleList.head? = some old)
    (offered : candidates ≠ []) (near : ∀ candidate ∈ candidates,
      distanceToInlist old candidate < parameters.poleAssociationThreshold ∧ distanceToInlist old candidate < 1000) :
    ∃ (num : Nat) (candidate : PoleInfo α),
      (choices parameters candidates node.poleList)[0]? = some (some num) ∧ candidates[num]? = some candidate ∧
      (track parameters candidates node).poleList.head? = some (matched parameters (reset old) candidate) := by
  obtain ⟨rest, poles⟩ := List.head?_eq_some_iff.mp head
  have inside := List.length_pos_of_ne_nil offered
  have first := List.getElem_mem inside
  obtain ⟨num, candidate, picked, found, _⟩ : ∃ num candidate, pick parameters candidates (reset old) [] = some num ∧ _ :=
    pick_best (List.getElem?_eq_getElem inside) (fresh _ first).fresh.1 List.not_mem_nil (near _ first).1 (near _ first).2
  have given : choices parameters candidates node.poleList = some num ::
      Greedy.assign (pick parameters candidates) (rest.map reset) [num] := by
    simp [choices, poles, Greedy.assign, picked]
  refine ⟨num, candidate, by rw [given]; rfl, found, ?_⟩
  rw [track_eq parameters candidates node fresh, survivors, settled, given, poles]
  simp [settle, found]

theorem stick_gap {old candidate : PoleInfo ℝ} {x : ℝ} (here : old.x = x ∧ old.y = 0) {moved : ℝ} (forward : 0 ≤ moved)
    (there : candidate.x = x + moved ∧ candidate.y = 0) : distanceToInlist old candidate = moved := by
  apply distanceToInlist_eq forward
  rw [here.1, here.2, there.1, there.2]
  ring

theorem stick_again {node : PoleDetectionNode ℝ} {old : PoleInfo ℝ} {x : ℝ} (moved : ℝ) (head : node.poleList.head? = some old)
    (here : old.x = x ∧ old.y = 0) (forward : 0 ≤ moved) (close : moved < 0.5) (away : 0.1 < x + moved)
    (range : x + moved ≤ 2) :
    let received := { node with cloud := stick (x + moved), newData := true }
    let candidates := frameCandidates .exact .declared received
    ∃ (num : Nat) (candidate : PoleInfo ℝ), (choices .declared candidates node.poleList)[0]? = some (some num) ∧
      candidates[num]? = some candidate ∧ (candidate.x = x + moved ∧ candidate.y = 0) ∧
      (track .declared candidates { received with newData := false }).poleList.head? =
        some (matched .declared (reset old) candidate) := by
  intro received candidates
  obtain ⟨offered, placed⟩ := stick_candidates Pcl.exact_documented away range
  have near (candidate : PoleInfo ℝ) (member : candidate ∈ candidates) :
      distanceToInlist old candidate < 0.5 ∧ distanceToInlist old candidate < 1000 := by
    rw [stick_gap here forward (placed candidate member)]
    exact ⟨close, by linarith⟩
  obtain ⟨num, candidate, given, found, after⟩ := @head_matched ℝ _ .declared { received with newData := false }
    _ _ (frameCandidates_fresh received) head offered near
  exact ⟨num, candidate, given, found, placed candidate (List.mem_of_getElem? found), after⟩

/-- The first frame leaves a pole that no frame has matched yet. -/
theorem stick_new : ∃ history node, (poleDetectionNode (α := ℝ) .exact .declared).Run history node ∧
    ∃ old, node.poleList.head? = some old ∧ (old.x = 1 ∧ old.y = 0) ∧ old.isInitialized = false := by
  obtain ⟨offered, placed⟩ := stick_candidates Pcl.exact_documented (x := 1) (by norm_num) (by norm_num)
  have start : (poleDetectionNode (α := ℝ) .exact .declared).Run [] .initial := .refl
  have run := run_frame start (List.cons_ne_nil _ _ : stick 1 ≠ [])
  have fresh : ∀ candidate ∈ detectedPoles .exact .declared (stick 1) _, Candidate candidate :=
    detectedPoles_candidates (stick 1) (performClustering .exact .declared (stick 1))
  have some : (track .declared _ (⟨[], 0, stick 1, false⟩ : PoleDetectionNode ℝ)).poleList ≠ [] := track_ne_nil fresh offered
  obtain ⟨old, rest, head⟩ := List.exists_cons_of_ne_nil some
  refine ⟨_, _, run, old, List.head?_eq_some_iff.mpr ⟨rest, head⟩, ?_⟩
  have member := head ▸ List.mem_cons_self
  cases arose fresh member with
  | kept kept => cases kept.tracked
  | aged there => cases there
  | new new =>
    have found := List.mem_of_getElem? (mem_unclaimed.mp (List.mem_of_getElem? new.left)).1
    have standing := placed _ found
    obtain ⟨x, y, diameter, rfl⟩ := fresh _ found
    rw [new.same]
    exact ⟨standing, rfl⟩

/-- The tick after a cloud has arrived. -/
theorem run_received {history : PoleDetectionNode.History α} {node : PoleDetectionNode α}
    (run : (poleDetectionNode pcl parameters).Run history node) {cloud : List (Point α)} (held : cloud ≠ []) :
    let received := { node with cloud, newData := true }
    let seen := track parameters (frameCandidates pcl parameters received) { received with newData := false }
    let entry : Entry (PoleDetectionNode α) (Event α) (List (Pole α)) :=
      ⟨received, .process, [publishPoleDetection seen.poleList], seen⟩
    analyzes entry = true ∧ (∃ history, (poleDetectionNode pcl parameters).Run history received) ∧
      (poleDetectionNode pcl parameters).step received .process = some (seen, entry.outputs) := by
  intro received seen entry
  obtain ⟨reached, taken, _⟩ := (run_frame run held).entry
  exact ⟨(analyzes_iff entry).mpr ⟨rfl, rfl, held⟩, ⟨_, reached⟩, taken⟩

/-- Once the pole has been matched, the next detection moves it by 0.7 of the way. -/
theorem filtered_updates_stick : ∃ history node, (poleDetectionNode (α := ℝ) .exact .declared).Run history node ∧
    ∃ pole ∈ node.poleList, pole.x = 0.7 * (1 + 0.1) + (1 - 0.7) * 1 := by
  obtain ⟨_, node, run, old, head, here, unknown⟩ := stick_new
  obtain ⟨_, first, _, _, place, again⟩ := stick_again 0 head here le_rfl (by norm_num) (by norm_num)
    (by norm_num)
  have seen := run_frame run (List.cons_ne_nil _ _ : stick (1 + 0) ≠ [])
  have still : (matched .declared (reset old) first).x = 1 ∧ (matched .declared (reset old) first).y = 0 := by
    rw [matched_first (show (reset old).isInitialized = false from unknown)]
    exact ⟨place.1.trans (add_zero 1), place.2⟩
  obtain ⟨num, detection, given, found, moved, _⟩ := stick_again 0.1 again still (by norm_num) (by norm_num)
    (by norm_num) (by norm_num)
  obtain ⟨analyzed, ⟨history, reached⟩, taken⟩ := run_received seen (List.cons_ne_nil _ _ : stick (1 + 0.1) ≠ [])
  have known := ((filtering_run reached).initialized _ (List.mem_of_head? again)).mp (by simp)
  obtain ⟨pole, member, _, filtered, _⟩ := @filtered_updates ℝ _ .exact .declared _ ⟨_, .process, _, _⟩ reached taken
    analyzed 0 num _ detection (by rwa [← List.head?_eq_getElem?]) given found
  refine ⟨_, _, reached.snoc taken, pole, member, ?_⟩
  rw [(filtered known).1, moved.1, still.1]
  rfl

theorem first_match_unfiltered : ∃ (history : PoleDetectionNode.History ℝ)
    (entry : Entry (PoleDetectionNode ℝ) (Event ℝ) (List (Pole ℝ))),
    (poleDetectionNode .exact .declared).Run history entry.before ∧
    (poleDetectionNode .exact .declared).step entry.before entry.event = some (entry.after, entry.outputs) ∧
    ∃ (index num : Nat) (old detection pole : PoleInfo ℝ), entry.before.poleList[index]? = some old ∧
      (choices .declared (frameCandidates .exact .declared entry.before) entry.before.poleList)[index]? =
        some (some num) ∧
      (frameCandidates .exact .declared entry.before)[num]? = some detection ∧
      pole ∈ entry.after.poleList ∧ pole.id = old.id ∧ pole.x ≠ 0.7 * detection.x + (1 - 0.7) * old.x := by
  obtain ⟨_, node, run, old, head, here, unknown⟩ := stick_new
  obtain ⟨num, detection, given, found, place, after⟩ := stick_again 0.1 head here (by norm_num) (by norm_num)
    (by norm_num) (by norm_num)
  obtain ⟨_, ⟨history, reached⟩, taken⟩ := run_received run (List.cons_ne_nil _ _ : stick (1 + 0.1) ≠ [])
  refine ⟨history, ⟨_, .process, _, _⟩, reached, taken, 0, num, old, detection, _, ?_, given, found, List.mem_of_head? after, by simp, ?_⟩
  · rwa [← List.head?_eq_getElem?]
  · rw [matched_first (show (reset old).isInitialized = false from unknown), place.1, here.1]
    norm_num

end FlightStack.Proofs
