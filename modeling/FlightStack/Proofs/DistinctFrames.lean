import FlightStack.Proofs.Candidates
import FlightStack.Proofs.PoleAgeing

/-! Ageing counts distinct frames. The flag `new_data_` lets a cloud through once, so
an age is a number of frames and not of ticks. -/

namespace FlightStack.Proofs
open PoleDetectionNode

section Runs
variable {α : Type} [Arithmetic α] {pcl : Pcl α} {parameters : DetectionParameters α} {node : PoleDetectionNode α}
  {history : PoleDetectionNode.History α}

/-- The flag is up for the cloud that was received last, until it is analyzed. -/
theorem pending_cloud (run : (poleDetectionNode pcl parameters).Run history node) (new : node.newData = true) :
    ∃ earlier received between, history = earlier ++ received :: between ∧ received.event = .lidar node.cloud ∧
      ∀ other ∈ between, other.event = .process ∧ analyzes other = false := by
  induction run with
  | refl => cases new
  | @snoc before after history event outputs earlier taken ih =>
    cases worked_cases taken with
    | receive message => exact ⟨history, _, [], rfl, rfl, by simp⟩
    | wait idle =>
      obtain ⟨past, received, between, rfl, latest, waited⟩ := ih new
      have waits : analyzes ⟨before, .process, [], before⟩ = false := by
        rcases idle with idle | idle <;> simp [analyzes, idle]
      refine ⟨past, received, between ++ [⟨before, .process, [], before⟩], by simp, latest, ?_⟩
      intro other member
      rcases List.mem_append.mp member with old | last
      · exact waited other old
      · exact List.mem_singleton.mp last ▸ ⟨rfl, waits⟩
    | analyze _ _ tracked =>
      rw [tracked, track_eq parameters _ _ (frameCandidates_fresh before)] at new
      cases new

theorem analyzed_lowers {entry : Entry (PoleDetectionNode α) (Event α) (List (Pole α))}
    (taken : (poleDetectionNode pcl parameters).step entry.before entry.event = some (entry.after, entry.outputs))
    (analyzed : analyzes entry = true) : entry.after.newData = false := by
  rcases tracker_step taken with ⟨waits, _⟩ | ⟨_, tracked⟩
  · rw [waits] at analyzed
    cases analyzed
  · rw [tracked, track_eq parameters _ _ (frameCandidates_fresh entry.before)]

/-- Only a message raises the flag. -/
theorem raised_by_message {entry : Entry (PoleDetectionNode α) (Event α) (List (Pole α))}
    (taken : (poleDetectionNode pcl parameters).step entry.before entry.event = some (entry.after, entry.outputs))
    (down : entry.before.newData ≠ true) (up : entry.after.newData = true) : ∃ message, entry.event = .lidar message := by
  obtain ⟨before, event, outputs, after⟩ := entry
  dsimp only at taken down up ⊢
  cases worked_cases taken with
  | receive message => exact ⟨message, rfl⟩
  | wait => exact absurd up down
  | analyze new => exact absurd new down

theorem detected_zero (run : (poleDetectionNode pcl parameters).Run history node) :
    ∀ pole ∈ node.poleList, pole.detected = true ↔ pole.lostCount = 0 := by
  apply run.invariant (fun node => ∀ pole ∈ node.poleList, pole.detected = true ↔ pole.lostCount = 0)
  · simp [poleDetectionNode, initial]
  · intro before event after outputs taken held
    rcases tracker_step taken with ⟨_, poles, _⟩ | ⟨_, tracked⟩
    · exact poles ▸ held
    · intro pole member
      rw [tracked] at member
      cases arose (frameCandidates_fresh before) member with
      | kept kept => simp [kept.same]
      | aged _ _ same => simp [same, aged]
      | new new =>
        have found := (mem_unclaimed.mp (List.mem_of_getElem? new.left)).1
        have fresh := (frameCandidates_fresh before _ (List.mem_of_getElem? found)).fresh
        simp [new.same, fresh.2]

/-- A pole leaves the list in the frame that would be its sixth without a match. -/
theorem leaves_iff {entry : Entry (PoleDetectionNode α) (Event α) (List (Pole α))}
    (run : (poleDetectionNode pcl parameters).Run history entry.before)
    (taken : (poleDetectionNode pcl parameters).step entry.before entry.event = some (entry.after, entry.outputs))
    {old : PoleInfo α} (held : old ∈ entry.before.poleList) :
    old.id ∉ entry.after.poleList.map PoleInfo.id ↔ analyzes entry = true ∧
      old.id ∉ (shown parameters (frameCandidates pcl parameters entry.before) entry.before).renewed ∧
      Ageing.since (frames pcl parameters history) old.id = 5 := by
  have named : (old.id, old.lostCount) ∈ ages entry.before := List.mem_map_of_mem held
  have ageing := frames_run run
  rw [← (ageing.age named).1]
  rcases tracker_step taken with ⟨waits, poles, _⟩ | ⟨analyzed, tracked⟩
  · rw [poles, waits]
    simpa using ⟨old, held, rfl⟩
  · have known := tracked_reachable run
    have fits : (shown parameters (frameCandidates pcl parameters entry.before) entry.before).Fits (ages entry.before) :=
      shown_fits known
    have leaves := fits.leaves ageing.nodup named (known.recent old held)
    rw [analyzed, ← ages_names, tracked, ages_track (known.received _ _) (frameCandidates_fresh entry.before), eq_self, true_and]
    exact leaves

end Runs

variable {α : Type} [Arithmetic α]

theorem distinct_frames (pcl : Pcl α) (parameters : DetectionParameters α) {history : PoleDetectionNode.History α}
    {node : PoleDetectionNode α} (run : (poleDetectionNode pcl parameters).Run history node) :
    (∀ past entry future, history = past ++ entry :: future → analyzes entry = true →
      ∃ earlier received between, past = earlier ++ received :: between ∧
        received.event = .lidar entry.before.cloud ∧
        ∀ other ∈ between, other.event = .process ∧ analyzes other = false) ∧
    (∀ past first between second future, history = past ++ first :: between ++ second :: future →
      analyzes first = true → analyzes second = true →
      ∃ received ∈ between, ∃ message, received.event = .lidar message) ∧
    (∀ pole ∈ node.poleList, pole.lostCount = Ageing.since (frames pcl parameters history) pole.id ∧
      (∃ frame ∈ frames pcl parameters history, frame.shows pole.id = true) ∧ pole.lostCount ≤ 5 ∧
      (pole.detected = true ↔ pole.lostCount = 0)) ∧
    (∀ past entry future, history = past ++ entry :: future → ∀ old ∈ entry.before.poleList,
      (old.id ∉ entry.after.poleList.map PoleInfo.id ↔ analyzes entry = true ∧
        old.id ∉ (shown parameters (frameCandidates pcl parameters entry.before) entry.before).renewed ∧
        Ageing.since (frames pcl parameters past) old.id = 5)) := by
  refine ⟨?_, ?_, ?_, ?_⟩
  · rintro past entry future rfl analyzed
    obtain ⟨reached, _, _⟩ := run.entry
    exact pending_cloud reached ((analyzes_iff entry).mp analyzed).2.1
  · rintro past first between second future rfl analyzed again
    obtain ⟨_, taken, path, _⟩ := run.between
    have down := analyzed_lowers taken analyzed
    obtain ⟨earlier, received, rest, rfl, low, raised⟩ := path.origin (fun node => node.newData = true) (by simp [down])
      ((analyzes_iff second).mp again).2.1
    exact ⟨received, by simp, raised_by_message path.entry.2.1 low raised⟩
  · intro pole member
    have named : (pole.id, pole.lostCount) ∈ ages node := List.mem_map_of_mem member
    obtain ⟨counted, seen⟩ := (frames_run run).age named
    exact ⟨counted, seen, (tracked_reachable run).recent pole member, detected_zero run pole member⟩
  · rintro past entry future rfl old held
    obtain ⟨reached, taken, _⟩ := run.entry
    exact leaves_iff reached taken held

/-- A stick is seen, and three frames without it follow. -/
theorem distinct_frames_stick : ∃ history node, (poleDetectionNode (α := ℝ) .exact .declared).Run history node ∧
    node.poleList ≠ [] ∧ ∀ pole ∈ node.poleList, Ageing.since (frames .exact .declared history) pole.id = 3 := by
  obtain ⟨_, _, stood, run, _, some, young⟩ := stick_path .initial rfl (show (0.1 : ℝ) < 1 by norm_num) (by norm_num)
  obtain ⟨between, node, path, ages⟩ := point_path stood (fun pole member => (young pole member).trans_le (Nat.zero_le 5)) 3
  have aged : (stood.poleList.map fun pole => (pole.id, pole.lostCount + 3)).filter (·.2 ≤ 5) =
      stood.poleList.map fun pole => (pole.id, 3) := by
    rw [List.filter_eq_self.mpr]
    · exact List.map_congr_left fun pole member => by rw [young pole member]
    · intro age member
      obtain ⟨pole, held, rfl⟩ := List.mem_map.mp member
      simp [young pole held]
  rw [aged] at ages
  obtain ⟨_, _, counted, _⟩ := distinct_frames .exact .declared (run.append path)
  refine ⟨_, node, run.append path, ?_, fun pole member => ?_⟩
  · intro none
    rw [none, List.map_nil] at ages
    exact some (List.map_eq_nil_iff.mp ages.symm)
  · have age : (pole.id, pole.lostCount) ∈ stood.poleList.map fun pole => (pole.id, 3) :=
      ages ▸ List.mem_map_of_mem member
    obtain ⟨_, _, same⟩ := List.mem_map.mp age
    exact (counted pole member).1.symm.trans (congrArg Prod.snd same).symm

end FlightStack.Proofs
