import FlightStack.Proofs.LivoxFrames

/-! Poles that have vanished. A frame without a candidate makes them older only if
it reaches the tracker, and a frame with no point in the box does not. -/

namespace FlightStack.Proofs
open LivoxToPointCloud2 PoleDetectionNode

section Silence
variable {α : Type} [Arithmetic α] {pcl : Pcl α} {pclFilters : PclFilters α} {parameters : DetectionParameters α}
  {node : PoleDetectionNode α}

theorem shown_nothing (node : PoleDetectionNode α) : shown parameters [] node = Ageing.quiet := by
  have renewed : (settled parameters [] node.poleList).filter (·.isUpdated) = [] := by
    rw [List.filter_eq_nil_iff]
    intro pole member
    obtain ⟨index, old, choice, _, _, rfl⟩ := mem_settled.mp member
    simp [settle, missed, reset]
  have fresh : (track parameters [] node).poleNumCount = node.poleNumCount := by
    rw [track_eq parameters [] node (by simp)]
    simp [created, unclaimed]
  rw [shown, association_eq, renewed, fresh, Nat.sub_self]
  rfl

/-- A frame without a candidate is quiet, or it is not seen at all. -/
theorem ages_tracked (documented : pclFilters.Documented) (known : Tracked node) {message : CustomMsg α}
    (silent : messageCandidates pcl pclFilters parameters message = []) :
    ages (tracked pcl pclFilters parameters message node) =
      if boxed message = [] then ages node else Ageing.advance 5 (ages node) Ageing.quiet := by
  have sent := callback_eq documented message
  unfold tracked
  rw [silent]
  by_cases empty : boxed message = []
  · rw [if_pos empty] at sent ⊢
    rw [sent]
  · rw [if_neg empty] at sent ⊢
    rw [sent]
    refine (ages_track (known.received _ _) (by simp)).trans ?_
    rw [shown_nothing]
    rfl

/-- How many of the frames have a point in the box. -/
def seenFrames (rounds : List (Round α)) : Nat := rounds.countP fun round => boxed round.message ≠ []

theorem ages_rounds (documented : pclFilters.Documented) (known : Tracked node) {rounds : List (Round α)}
    (silent : ∀ round ∈ rounds, messageCandidates pcl pclFilters parameters round.message = []) :
    ages (rounds.foldl (fun node round => tracked pcl pclFilters parameters round.message node) node) =
      (List.replicate (seenFrames rounds) Ageing.quiet).foldl (Ageing.advance 5) (ages node) := by
  induction rounds generalizing node with
  | nil => rfl
  | cons round rest ih =>
    have here := ages_tracked documented known (silent round List.mem_cons_self)
    rw [List.foldl_cons, ih (known.tracked round.message) fun later member => silent later (List.mem_cons_of_mem _ member),
      here]
    by_cases empty : boxed round.message = []
    · simp [seenFrames, empty]
    · simp [seenFrames, empty, List.replicate_succ]

/-- The timer has seen to it that nothing waits. -/
theorem idle_after {past : Pipeline.History α} (run : (pipeline pcl pclFilters parameters).Run past node) {idle : Nat}
    {earlier : List (Round α)}
    (events : past.map Entry.event = List.replicate idle .process ++ earlier.flatMap Round.events) :
    node.newData = false := by
  have start : (pipeline pcl pclFilters parameters).after (pipeline pcl pclFilters parameters).initial
      (List.replicate idle .process) =
      some (pipeline pcl pclFilters parameters).initial := after_ticks rfl idle
  obtain ⟨reached, low⟩ : (pipeline pcl pclFilters parameters).after (pipeline pcl pclFilters parameters).initial
      (earlier.flatMap Round.events) = _ ∧ _ := after_rounds rfl earlier
  have ended := run.after
  rw [events, Machine.after_append, start, Option.bind_some, reached] at ended
  exact Option.some.inj ended ▸ low

theorem end_of_rounds {final : PoleDetectionNode α} {future : Pipeline.History α} {rounds : List (Round α)}
    (path : (pipeline pcl pclFilters parameters).Path node future final) (idle : node.newData = false)
    (events : future.map Entry.event = rounds.flatMap Round.events) :
    final = rounds.foldl (fun node round => tracked pcl pclFilters parameters round.message node) node := by
  have ended := path.after
  rw [events, (after_rounds idle rounds).1] at ended
  exact (Option.some.inj ended).symm

end Silence

variable {α : Type} [Arithmetic α]

theorem vanished_poles (pcl : Pcl α) {pclFilters : PclFilters α} (documented : pclFilters.Documented)
    (parameters : DetectionParameters α) {past future : Pipeline.History α} {middle node : PoleDetectionNode α}
    (run : (pipeline pcl pclFilters parameters).Run past middle)
    (path : (pipeline pcl pclFilters parameters).Path middle future node)
    {idle : Nat} {earlier frames : List (Round α)}
    (before : past.map Entry.event = List.replicate idle .process ++ earlier.flatMap Round.events)
    (after : future.map Entry.event = frames.flatMap Round.events)
    (silent : ∀ frame ∈ frames, messageCandidates pcl pclFilters parameters frame.message = []) :
    node.poleList = [] ↔ ∀ pole ∈ middle.poleList, 6 ≤ pole.lostCount + seenFrames frames := by
  obtain ⟨moves, seen⟩ := (pipeline_refines pcl pclFilters parameters).run run
  have known : Tracked middle := tracked_reachable seen
  have young : ∀ item ∈ ages middle, item.2 ≤ 5 := List.forall_mem_map.mpr known.recent
  have gone : ages node = [] ↔ node.poleList = [] := List.map_eq_nil_iff
  obtain rfl := end_of_rounds path (idle_after run before) after
  rw [← gone, ages_rounds documented known silent, Ageing.quiet_forgets young, ages, List.forall_mem_map]
  rfl

/-! A stick that is taken away -/

/-- A single point in the box is seen, and is not a pole. -/
theorem point_silent : messageCandidates (α := ℝ) .exact .exact .declared (scan [⟨1, 0, 0⟩]) = [] := by
  have inside : [(⟨1, 0, 0⟩ : Point ℝ)].filter inBox = [⟨1, 0, 0⟩] := by norm_num [inBox]
  rw [scan_candidates inside (List.cons_ne_nil _ _) (List.nodup_singleton _)]
  exact point_candidates Pcl.exact_documented _

/-- A stick is seen, and then come the frames. -/
theorem stick_then (frames : List (Round ℝ)) : ∃ (past future : Pipeline.History ℝ) (middle node : PoleDetectionNode ℝ),
    (pipeline .exact .exact .declared).Run past middle ∧ (pipeline .exact .exact .declared).Path middle future node ∧
    past.map Entry.event = [⟨scan (stick 1), 0⟩].flatMap Round.events ∧ future.map Entry.event = frames.flatMap Round.events ∧
    middle.poleList ≠ [] ∧
    node = frames.foldl (fun node round => tracked .exact .exact .declared round.message node) middle := by
  obtain ⟨offered, _⟩ := stick_candidates Pcl.exact_documented (show (0.1 : ℝ) < 1 by norm_num) (by norm_num)
  have shows := scan_stick (show (0 : ℝ) ≤ 1 by norm_num) (by norm_num) [] (by simp)
  rw [List.append_nil] at shows
  obtain ⟨past, run, before⟩ : ∃ past, (pipeline .exact .exact .declared).Run past _ ∧ _ :=
    exists_rounds rfl [⟨scan (stick 1), 0⟩]
  obtain ⟨future, path, after⟩ : ∃ future, (pipeline .exact .exact .declared).Path
      (tracked .exact .exact .declared (scan (stick 1)) .initial) future _ ∧ _ :=
    exists_rounds (tracked_idle rfl _) frames
  exact ⟨past, future, _, _, run, path, before, after, tracked_ne_nil (shows ▸ offered), rfl⟩

/-- Where it stood, six frames show a point that is no pole. -/
theorem vanished_poles_stick : ∃ (past future : Pipeline.History ℝ) (middle node : PoleDetectionNode ℝ),
    (pipeline .exact .exact .declared).Run past middle ∧ (pipeline .exact .exact .declared).Path middle future node ∧
    middle.poleList ≠ [] ∧ node.poleList = [] := by
  obtain ⟨past, future, middle, node, run, path, before, after, stood, _⟩ :=
    stick_then (List.replicate 6 ⟨scan [⟨1, 0, 0⟩], 0⟩)
  have seen : seenFrames (List.replicate 6 (⟨scan [⟨1, 0, 0⟩], 0⟩ : Round ℝ)) = 6 := by
    norm_num [seenFrames, List.countP_replicate, boxed_scan, inBox]
  have started : past.map Entry.event = List.replicate 0 .process ++ [⟨scan (stick 1), 0⟩].flatMap Round.events := before
  have forgets := vanished_poles .exact PclFilters.exact_documented .declared run path started after fun frame member =>
    List.eq_of_mem_replicate member ▸ point_silent
  refine ⟨past, future, middle, node, run, path, stood, forgets.mpr fun pole _ => ?_⟩
  rw [seen]
  exact Nat.le_add_left 6 _

/-- The points of six frames are all out of the box. -/
theorem vanished_pole_kept : ∃ (past future : Pipeline.History ℝ) (middle node : PoleDetectionNode ℝ)
    (earlier frames : List (Round ℝ)), (pipeline .exact .exact .declared).Run past middle ∧
    (pipeline .exact .exact .declared).Path middle future node ∧
    past.map Entry.event = earlier.flatMap Round.events ∧ future.map Entry.event = frames.flatMap Round.events ∧
    frames.length = 6 ∧ (∀ frame ∈ frames, messageCandidates .exact .exact .declared frame.message = []) ∧
    node.poleList ≠ [] := by
  have outside : boxed (scan [(⟨3, 0, 0⟩ : Point ℝ)]) = [] := by norm_num [boxed_scan, inBox]
  have unsent := callback_eq PclFilters.exact_documented (scan [(⟨3, 0, 0⟩ : Point ℝ)])
  rw [if_pos outside] at unsent
  obtain ⟨past, future, middle, node, run, path, before, after, stood, final⟩ :=
    stick_then (List.replicate 6 ⟨scan [⟨3, 0, 0⟩], 0⟩)
  have same : node = middle := by simp [final, List.replicate_succ, tracked, unsent]
  refine ⟨past, future, middle, node, [⟨scan (stick 1), 0⟩], _, run, path, before, after, List.length_replicate,
    fun frame member => ?_, same ▸ stood⟩
  rw [List.eq_of_mem_replicate member, messageCandidates, unsent]

end FlightStack.Proofs
