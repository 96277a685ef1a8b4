import FlightStack.Library.Ageing
import FlightStack.Proofs.FrameAccount

/-! The tracked poles are names that grow old. A frame is analyzed when the timer
finds a cloud it has not seen yet, and only then do the poles age. -/

namespace FlightStack.Proofs
open PoleDetectionNode

section Ages
variable {α : Type} [Arithmetic α]

/-- What a frame shows to the tracker: the ids that are updated after the association,
and the ids that are handed out. -/
def shown (parameters : DetectionParameters α) (candidates : List (PoleInfo α)) (node : PoleDetectionNode α) :
    Ageing.Frame Nat where
  renewed := ((associate parameters (node.poleList.map reset) candidates).1.filter (·.isUpdated)).map PoleInfo.id
  fresh := List.range' node.poleNumCount ((track parameters candidates node).poleNumCount - node.poleNumCount)

omit [Arithmetic α] in
def analyzes (entry : Entry (PoleDetectionNode α) (Event α) (List (Pole α))) : Bool :=
  match entry.event with
  | .process => entry.before.newData && !entry.before.cloud.isEmpty
  | .lidar _ => false

/-- The analyzed frames of a history. -/
def frames (pcl : Pcl α) (parameters : DetectionParameters α) (history : PoleDetectionNode.History α) :
    List (Ageing.Frame Nat) :=
  (history.filter analyzes).map fun entry => shown parameters (frameCandidates pcl parameters entry.before) entry.before

def ages (node : PoleDetectionNode α) : List (Nat × Nat) := node.poleList.map fun pole => (pole.id, pole.lostCount)

variable {pcl : Pcl α} {parameters : DetectionParameters α} {candidates : List (PoleInfo α)} {node : PoleDetectionNode α}

/-! Steps of the node -/

omit [Arithmetic α] in
theorem analyzes_iff (entry : Entry (PoleDetectionNode α) (Event α) (List (Pole α))) :
    analyzes entry = true ↔ entry.event = .process ∧ entry.before.newData = true ∧ entry.before.cloud ≠ [] := by
  unfold analyzes
  split <;> simp_all

/-- Only the analysis of a frame touches the tracker. -/
theorem tracker_step {before after : PoleDetectionNode α} {event : Event α} {outputs : List (List (Pole α))}
    (taken : (poleDetectionNode pcl parameters).step before event = some (after, outputs)) :
    (analyzes ⟨before, event, outputs, after⟩ = false ∧ after.poleList = before.poleList ∧
        after.poleNumCount = before.poleNumCount) ∨
      (analyzes ⟨before, event, outputs, after⟩ = true ∧
        after = track parameters (frameCandidates pcl parameters before) { before with newData := false }) := by
  cases worked_cases taken with
  | receive message => exact .inl ⟨rfl, rfl, rfl⟩
  | wait idle =>
    refine .inl ⟨?_, rfl, rfl⟩
    rcases idle with idle | idle <;> simp [analyzes, idle]
  | analyze new held tracked => exact .inr ⟨(analyzes_iff _).mpr ⟨rfl, new, held⟩, tracked⟩

/-! One frame -/

@[simp] theorem matched_isUpdated (pole candidate : PoleInfo α) :
    (matched parameters pole candidate).isUpdated = true := by
  simp only [matched, update]
  split <;> rfl

theorem matched_filtered {pole candidate : PoleInfo α} (known : pole.isInitialized = true) :
    matched parameters pole candidate =
      let x := parameters.filterAlpha * candidate.x + (1 - parameters.filterAlpha) * pole.x
      let y := parameters.filterAlpha * candidate.y + (1 - parameters.filterAlpha) * pole.y
      { pole with isUpdated := true, lostCount := 0, detected := true, x, y, distance := calculateDistance x y } := by
  simp [matched, update, known]

theorem matched_first {pole candidate : PoleInfo α} (unknown : pole.isInitialized = false) :
    matched parameters pole candidate = { pole with
      isUpdated := true, lostCount := 0, detected := true, isInitialized := true, x := candidate.x, y := candidate.y,
      distance := calculateDistance candidate.x candidate.y } := by
  simp [matched, update, unknown]

theorem updated_iff (tracked : Tracked node) {index : Nat} {old : PoleInfo α}
    (held : node.poleList[index]? = some old) :
    old.id ∈ (shown parameters candidates node).renewed ↔
      ∃ num, (choices parameters candidates node.poleList)[index]? = some (some num) := by
  simp only [shown, association_eq, List.mem_map, List.mem_filter]
  constructor
  · intro renewed
    obtain ⟨pole, ⟨member, updated⟩, same⟩ := renewed
    obtain ⟨place, other, choice, there, given, rfl⟩ := mem_settled.mp member
    obtain rfl := tracked.unique there held (by simpa [reset] using same)
    cases choice with
    | none => cases updated
    | some num => exact ⟨num, given⟩
  · intro chosen
    obtain ⟨num, given⟩ := chosen
    obtain ⟨candidate, kept⟩ := kept_of_choice held given
    refine ⟨_, ⟨mem_settled.mpr ⟨index, old, some num, held, given, rfl⟩, ?_⟩, by simp [reset]⟩
    rw [kept.settled, kept.same, matched_isUpdated]

theorem missed_unrenewed (tracked : Tracked node) {index : Nat} {old : PoleInfo α}
    (held : node.poleList[index]? = some old)
    (given : (choices parameters candidates node.poleList)[index]? = some none) :
    old.id ∉ (shown parameters candidates node).renewed := by
  rw [updated_iff tracked held]
  intro chosen
  obtain ⟨num, other⟩ := chosen
  cases given.symm.trans other

theorem settled_age (tracked : Tracked node) {index : Nat} {old : PoleInfo α}
    (held : node.poleList[index]? = some old) {choice : Option Nat}
    (given : (choices parameters candidates node.poleList)[index]? = some choice) :
    (settle parameters candidates (reset old) choice).lostCount =
      if old.id ∈ (shown parameters candidates node).renewed then 0 else old.lostCount + 1 := by
  cases choice with
  | none =>
    rw [if_neg (missed_unrenewed tracked held given)]
    rfl
  | some num =>
    have renewed := (updated_iff tracked held).mpr ⟨num, given⟩
    obtain ⟨candidate, kept⟩ := kept_of_choice held given
    rw [if_pos renewed, kept.settled, kept.same, matched_lostCount]

theorem ages_settled (tracked : Tracked node) :
    (settled parameters candidates node.poleList).map (fun pole => (pole.id, pole.lostCount)) =
      (ages node).map (Ageing.older (shown parameters candidates node)) := by
  apply List.ext_getElem (by simp [settled, ages])
  intro index first second
  have inside : index < node.poleList.length := by simpa [ages] using second
  obtain ⟨choice, given⟩ := choice_exists parameters candidates (List.getElem?_eq_getElem inside)
  have age := settled_age tracked (List.getElem?_eq_getElem inside) given
  obtain ⟨_, rfl⟩ := List.getElem?_eq_some_iff.mp given
  simpa [settled, ages, Ageing.older] using age

/-- A frame of the tracker is a frame of ageing names. -/
theorem ages_track (tracked : Tracked node) (fresh : ∀ candidate ∈ candidates, Candidate candidate) :
    ages (track parameters candidates node) = Ageing.advance 5 (ages node) (shown parameters candidates node) := by
  have kept : (survivors parameters candidates node.poleList).map (fun pole => (pole.id, pole.lostCount)) =
      ((ages node).map (Ageing.older (shown parameters candidates node))).filter (·.2 ≤ 5) := by
    rw [← ages_settled tracked, survivors, List.filter_map]
    rfl
  have new : (created parameters candidates node.poleList node.poleNumCount).map
      (fun pole => (pole.id, pole.lostCount)) = (shown parameters candidates node).fresh.map (·, 0) := by
    have ids : (created parameters candidates node.poleList node.poleNumCount).map PoleInfo.id = _ :=
      created_ids candidates node.poleList node.poleNumCount
    have count : (track parameters candidates node).poleNumCount - node.poleNumCount =
        (created parameters candidates node.poleList node.poleNumCount).length := by
      rw [track_eq parameters candidates node fresh, Nat.add_sub_cancel_left]
    rw [shown, count, ← ids, List.map_map]
    apply List.map_congr_left
    intro pole member
    obtain ⟨rank, candidate, num, left, rfl⟩ := mem_created.mp member
    have found := (mem_unclaimed.mp (List.mem_of_getElem? left)).1
    simp [(fresh candidate (List.mem_of_getElem? found)).fresh.2]
  rw [ages, track_eq parameters candidates node fresh, List.map_append, kept, new]
  rfl

omit [Arithmetic α] in
theorem ages_names (node : PoleDetectionNode α) : (ages node).map Prod.fst = node.poleList.map PoleInfo.id := by
  simp [ages, Function.comp_def]

theorem shown_fits (tracked : Tracked node) :
    (shown parameters candidates node).Fits (ages node) := by
  refine ⟨?_, ?_, List.nodup_range'⟩
  · rw [ages_names, ← settled_ids parameters candidates node.poleList, shown, association_eq]
    exact List.filter_sublist.map _
  · intro name fresh held
    rw [ages_names] at held
    exact absurd (tracked.ids.given name held) (Nat.not_lt.mpr (List.left_le_of_mem_range' fresh))

/-! Runs -/

theorem frames_snoc (history : PoleDetectionNode.History α)
    (entry : Entry (PoleDetectionNode α) (Event α) (List (Pole α))) : frames pcl parameters (history ++ [entry]) =
      frames pcl parameters history ++ if analyzes entry then
        [shown parameters (frameCandidates pcl parameters entry.before) entry.before] else [] := by
  cases analyzed : analyzes entry <;> simp [frames, analyzed]

theorem frameCandidates_fresh (node : PoleDetectionNode α) :
    ∀ candidate ∈ frameCandidates pcl parameters node, Candidate candidate :=
  detectedPoles_candidates node.cloud _

theorem frames_run {history : PoleDetectionNode.History α} (run : (poleDetectionNode pcl parameters).Run history node) :
    Ageing.Run 5 (frames pcl parameters history) (ages node) := by
  induction run with
  | refl => exact .nil
  | @snoc before after history event outputs earlier taken ih =>
    rw [frames_snoc]
    rcases tracker_step taken with ⟨waits, poles, _⟩ | ⟨analyzed, tracked⟩
    · have same : ages after = ages before := congrArg (List.map _) poles
      rw [waits, same]
      simpa using ih
    · have known := tracked_reachable earlier
      rw [if_pos analyzed, tracked, ages_track (known.received _ _) (frameCandidates_fresh before)]
      exact ih.snoc (shown_fits known)

/-- A cloud arrives and is analyzed at the next tick. -/
theorem run_frame {history : PoleDetectionNode.History α} (run : (poleDetectionNode pcl parameters).Run history node)
    {cloud : List (Point α)} (held : cloud ≠ []) :
    let received := { node with cloud, newData := true }
    let seen := track parameters (frameCandidates pcl parameters received) { received with newData := false }
    (poleDetectionNode pcl parameters).Run (history ++ [⟨node, .lidar cloud, [], received⟩] ++
      [⟨received, .process, [publishPoleDetection seen.poleList], seen⟩]) seen := by
  intro received seen
  rw [List.append_assoc]
  exact run.append (frame_path node held)

theorem track_ne_nil (fresh : ∀ candidate ∈ candidates, Candidate candidate) (some : candidates ≠ []) :
    (track parameters candidates node).poleList ≠ [] := by
  obtain ⟨pole, paired⟩ := Paired.total parameters node (List.length_pos_of_ne_nil some)
  rw [track_eq parameters candidates node fresh]
  exact List.ne_nil_of_mem (detected_iff.mpr ⟨0, paired⟩).1

/-- A stick in range has been seen. -/
theorem run_stick {history : PoleDetectionNode.History ℝ} {node : PoleDetectionNode ℝ}
    (run : (poleDetectionNode .exact .declared).Run history node) {x : ℝ} (away : 0.1 < x) (near : x ≤ 2) :
    ∃ history node, (poleDetectionNode (α := ℝ) .exact .declared).Run history node ∧ node.poleList ≠ [] := by
  obtain ⟨some, _⟩ := stick_candidates Pcl.exact_documented away near
  have seen := run_frame run (List.cons_ne_nil _ _ : stick x ≠ [])
  exact ⟨_, _, seen, track_ne_nil (frameCandidates_fresh _) some⟩

end Ages
end FlightStack.Proofs
