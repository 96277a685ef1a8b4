import FlightStack.Library.FreshNames
import FlightStack.Proofs.Candidates

/-! The ids of the poles are the names of a register. -/

namespace FlightStack.Proofs
open PoleDetectionNode
variable {α : Type}

/-- The ids in use, and the id of the next new pole. -/
def register (node : PoleDetectionNode α) : Register := ⟨node.poleList.map PoleInfo.id, node.poleNumCount⟩

variable [Arithmetic α] {pcl : Pcl α} {parameters : DetectionParameters α}

theorem detectedPoles_candidates (cloud : List (Point α)) (clusterIndices : List (List Nat)) :
    ∀ candidate ∈ detectedPoles pcl parameters cloud clusterIndices, Candidate candidate := by
  intro candidate member
  obtain ⟨_, _, analyzed, _⟩ := mem_detectedPoles.mp member
  exact ⟨_, _, _, analyzed.same⟩

/-- The candidates in the cloud the node holds. -/
def frameCandidates (pcl : Pcl α) (parameters : DetectionParameters α) (node : PoleDetectionNode α) : List (PoleInfo α) :=
  detectedPoles pcl parameters node.cloud (performClustering pcl parameters node.cloud)

inductive Worked (pcl : Pcl α) (parameters : DetectionParameters α) (before : PoleDetectionNode α) :
    Event α → PoleDetectionNode α → List (List (Pole α)) → Prop where
  | receive (message : List (Point α)) :
      Worked pcl parameters before (.lidar message) { before with cloud := message, newData := true } []
  | wait (idle : before.newData = false ∨ before.cloud = []) : Worked pcl parameters before .process before []
  | analyze (new : before.newData = true) (held : before.cloud ≠ []) {after : PoleDetectionNode α}
      (tracked : after = track parameters (frameCandidates pcl parameters before) { before with newData := false }) :
      Worked pcl parameters before .process after [publishPoleDetection after.poleList]

theorem worked_cases {before after : PoleDetectionNode α} {event : Event α} {outputs : List (List (Pole α))}
    (taken : (poleDetectionNode pcl parameters).step before event = some (after, outputs)) :
    Worked pcl parameters before event after outputs := by
  cases event with
  | lidar message =>
    cases taken
    exact .receive message
  | process =>
    have ran : processPointCloud pcl parameters before = (after, outputs) := Option.some.inj taken
    unfold processPointCloud at ran
    split at ran
    next idle =>
      cases ran
      exact .wait (by simpa using idle)
    next busy =>
      cases ran
      simp only [not_or, Bool.not_eq_false, List.isEmpty_iff] at busy
      exact .analyze busy.1 busy.2 rfl

theorem track_step (candidates : List (PoleInfo α)) (node : PoleDetectionNode α)
    (fresh : ∀ candidate ∈ candidates, Candidate candidate) :
    (register node).Step (register (track parameters candidates node)) := by
  rw [track_eq parameters candidates node fresh]
  refine ⟨(survivors parameters candidates node.poleList).map PoleInfo.id, _, ?_, ?_, rfl⟩
  · simp only [register, ← settled_ids parameters candidates node.poleList]
    exact List.filter_sublist.map _
  · simp only [register, List.map_append, created_ids]

theorem register_step {before after : PoleDetectionNode α} {event : PoleDetectionNode.Event α}
    {outputs : List (List (Pole α))} (taken : (poleDetectionNode pcl parameters).step before event = some (after, outputs)) :
    (register before).Step (register after) ∧
      ∀ message ∈ outputs, ∀ pole ∈ message, pole.id ∈ (register after).live := by
  cases worked_cases taken with
  | receive | wait => exact ⟨.idle _, by simp⟩
  | analyze _ _ tracked =>
    subst tracked
    refine ⟨track_step _ _ (detectedPoles_candidates _ _), ?_⟩
    simp only [List.mem_singleton, forall_eq, publishPoleDetection, List.forall_mem_map]
    exact fun pole member => List.mem_map_of_mem member

/-- A cloud arrives and is analyzed at the next tick. -/
theorem frame_path (node : PoleDetectionNode α) {cloud : List (Point α)} (held : cloud ≠ []) :
    let received := { node with cloud, newData := true }
    let seen := track parameters (frameCandidates pcl parameters received) { received with newData := false }
    (poleDetectionNode pcl parameters).Path node ([⟨node, .lidar cloud, [], received⟩] ++
      [⟨received, .process, [publishPoleDetection seen.poleList], seen⟩]) seen := by
  intro received seen
  apply (Machine.Path.refl.snoc rfl).snoc
  have busy : ¬ (received.newData = false ∨ received.cloud.isEmpty = true) := by simpa [received] using held
  simp only [poleDetectionNode, PoleDetectionNode.step, processPointCloud, if_neg busy]
  rfl

theorem register_sound {history : PoleDetectionNode.History α}
    {node : PoleDetectionNode α} (run : (poleDetectionNode pcl parameters).Run history node) : (register node).Sound := by
  apply run.invariant (fun node => (register node).Sound) ⟨.nil, by simp [register, poleDetectionNode, initial]⟩
  exact fun taken sound => (register_step taken).1.sound sound

theorem path_later {history : PoleDetectionNode.History α}
    {start final : PoleDetectionNode α} (path : (poleDetectionNode pcl parameters).Path start history final) :
    (register start).Later (register final) :=
  path.relates (fun start final => (register start).Later (register final)) (fun _ => .refl _)
    (fun first last => first.trans last) fun _ _ taken => (register_step taken).1.later

theorem pole_identities (pcl : Pcl α) (parameters : DetectionParameters α)
    {history : PoleDetectionNode.History α}
    {node : PoleDetectionNode α} (run : (poleDetectionNode pcl parameters).Run history node) :
    (node.poleList.map PoleInfo.id).Nodup ∧
    node.poleList.Pairwise (fun earlier later => earlier.id < later.id) ∧
    (∀ pole ∈ node.poleList, pole.id < node.poleNumCount) ∧
    (∀ entry ∈ history, entry.before.poleNumCount ≤ entry.after.poleNumCount) ∧
    (∀ past entry future id, history = past ++ entry :: future →
      id ∈ entry.before.poleList.map PoleInfo.id → id ∉ entry.after.poleList.map PoleInfo.id →
      ∀ later ∈ entry :: future, id ∉ later.after.poleList.map PoleInfo.id ∧
        ∀ message ∈ later.outputs, ∀ pole ∈ message, pole.id ≠ id) := by
  have sound := register_sound run
  refine ⟨sound.ordered.imp Nat.ne_of_lt, List.pairwise_map.mp sound.ordered, ?_, ?_, ?_⟩
  · exact fun pole member => sound.given pole.id (List.mem_map_of_mem member)
  · intro entry member
    have taken := run.taken member
    exact (register_step taken).1.later.1
  · rintro past entry future id rfl held left later member
    obtain ⟨reached, taken, rest⟩ := run.entry
    have given := (register_sound reached).given id held
    have gone : id ∉ (register later.after).live ∧
        ∃ before event, (poleDetectionNode pcl parameters).step before event = some (later.after, later.outputs) := by
      rcases List.mem_cons.mp member with rfl | member
      · exact ⟨left, _, _, taken⟩
      · obtain ⟨_, _, _, between, retaken, _⟩ := rest.mem member
        have given' := Nat.lt_of_lt_of_le given (register_step taken).1.later.1
        exact ⟨fun back => left ((path_later (between.snoc retaken)).2 id given' back), _, _, retaken⟩
    obtain ⟨absent, before, event, retaken⟩ := gone
    refine ⟨absent, fun message sent pole published same => absent ?_⟩
    exact same ▸ (register_step retaken).2 message sent pole published

/-! A stick that is taken away -/

/-- A stick in range is seen where no pole is known. -/
theorem stick_path (node : PoleDetectionNode ℝ) (empty : node.poleList = []) {x : ℝ} (away : 0.1 < x) (near : x ≤ 2) :
    ∃ received analyzed final, (poleDetectionNode (α := ℝ) .exact .declared).Path node ([received] ++ [analyzed]) final ∧
      analyzed.after = final ∧ final.poleList ≠ [] ∧ ∀ pole ∈ final.poleList, pole.lostCount = 0 := by
  obtain ⟨some, _⟩ := stick_candidates Pcl.exact_documented away near
  obtain ⟨seen, young⟩ := track_first .declared
    (detectedPoles_candidates (stick x) (performClustering .exact .declared (stick x)))
    { node with cloud := stick x, newData := false } empty
  exact ⟨_, _, _, frame_path node (List.cons_ne_nil _ _ : stick x ≠ []), rfl, seen.not.mpr some, young⟩

/-- In its place a single point is seen, several times over. -/
theorem point_path (node : PoleDetectionNode ℝ) (recent : ∀ pole ∈ node.poleList, pole.lostCount ≤ 5) (rounds : Nat) :
    ∃ between final, (poleDetectionNode (α := ℝ) .exact .declared).Path node between final ∧
      final.poleList.map (fun pole => (pole.id, pole.lostCount)) =
        (node.poleList.map fun pole => (pole.id, pole.lostCount + rounds)).filter (·.2 ≤ 5) := by
  induction rounds with
  | zero =>
    refine ⟨[], node, .refl, ?_⟩
    rw [List.filter_eq_self.mpr]
    · rfl
    · simpa using recent
  | succ rounds ih =>
    obtain ⟨between, reached, path, ages⟩ := ih
    have none : frameCandidates .exact .declared { reached with cloud := [(⟨1, 0, 0⟩ : Point ℝ)], newData := true } = [] :=
      point_candidates Pcl.exact_documented _
    have some : [(⟨1, 0, 0⟩ : Point ℝ)] ≠ [] := List.cons_ne_nil _ _
    refine ⟨_, _, path.append (frame_path reached some), ?_⟩
    have aged : ((reached.poleList.map fun pole => missed (reset pole)).filter (·.lostCount ≤ 5)).map
        (fun pole => (pole.id, pole.lostCount)) = ((reached.poleList.map fun pole => (pole.id, pole.lostCount)).map
          fun age => (age.1, age.2 + 1)).filter (·.2 ≤ 5) := by
      simp [List.filter_map, Function.comp_def, missed, reset]
    have both (count : Nat) : (decide (count + (rounds + 1) ≤ 5) && decide (count + rounds ≤ 5)) =
        decide (count + (rounds + 1) ≤ 5) := by
      grind
    rw [none, track_nil, aged, ages]
    simp [List.filter_map, List.filter_filter, Function.comp_def, both, Nat.add_assoc]

/-- A stick is seen, and taken away for six frames. When it is back it has another id. -/
theorem pole_identities_one : ∃ history node past entry future id,
    (poleDetectionNode (α := ℝ) .exact .declared).Run history node ∧ history = past ++ entry :: future ∧
      id ∈ entry.before.poleList.map PoleInfo.id ∧ id ∉ entry.after.poleList.map PoleInfo.id ∧
      node.poleList ≠ [] ∧ ∀ pole ∈ node.poleList, pole.id ≠ id := by
  obtain ⟨_, _, stood, run, _, some, young⟩ := stick_path .initial rfl (show (0.1 : ℝ) < 1 by norm_num) (by norm_num)
  obtain ⟨pole, held⟩ := List.exists_mem_of_ne_nil _ some
  obtain ⟨between, gone, path, ages⟩ := point_path stood (fun pole member => (young pole member).trans_le (Nat.zero_le 5)) 6
  have none : (stood.poleList.map fun pole => (pole.id, pole.lostCount + 6)).filter (·.2 ≤ 5) = [] := by simp
  have empty : gone.poleList = [] := List.map_eq_nil_iff.mp (ages.trans none)
  obtain ⟨first, entry, rest, rfl, before, after⟩ := path.origin (fun node => pole.id ∉ node.poleList.map PoleInfo.id)
    (not_not.mpr (List.mem_map_of_mem held)) (by simp [empty])
  obtain ⟨received, analyzed, back, again, last, some, _⟩ :=
    stick_path gone empty (show (0.1 : ℝ) < 1 by norm_num) (by norm_num)
  have whole := (run.append path).append again
  obtain ⟨_, _, _, _, unused⟩ := pole_identities .exact .declared whole
  have split {earlier later : List (Entry (PoleDetectionNode ℝ) (Event ℝ) (List (Pole ℝ)))} :
      earlier ++ (first ++ entry :: rest) ++ later = (earlier ++ first) ++ entry :: (rest ++ later) := by simp
  refine ⟨_, back, _, entry, _, pole.id, whole, split, not_not.mp before, after, some, ?_⟩
  intro other member same
  have later := unused _ entry _ pole.id split (not_not.mp before) after analyzed
    (List.mem_cons_of_mem _ (List.mem_append_right rest (List.mem_append_right _ List.mem_cons_self)))
  exact later.1 (List.mem_map.mpr ⟨other, last ▸ member, same⟩)

end FlightStack.Proofs
