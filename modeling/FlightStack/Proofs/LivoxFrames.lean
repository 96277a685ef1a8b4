import FlightStack.PclContract
import FlightStack.Pipeline
import FlightStack.Proofs.Candidates
import FlightStack.Proofs.PoleAgeing

/-! What becomes of a Livox message. It reaches the tracker when some of its points
are in the box, and then as the centroids of the voxels they occupy. -/

namespace FlightStack.Proofs
open LivoxToPointCloud2 PoleDetectionNode Pipeline
variable {α : Type} [Arithmetic α] {pcl : Pcl α} {pclFilters : PclFilters α} {parameters : DetectionParameters α}
  {message : CustomMsg α}

/-- The box the three filters cut out. -/
def inBox (point : Point α) : Bool :=
  0 ≤ point.x && point.x ≤ 2 && (-2 ≤ point.y && point.y ≤ 2) && (-1 ≤ point.z && point.z ≤ 1)

/-- The points of a message that are in the box. -/
def boxed (message : CustomMsg α) : List (PointXYZI α) := (fillCloud message).filter fun point => inBox point.toPoint

theorem passFilters_eq {pass : PassThrough α} (documented : pass.Documented) (limits : List (Axis × α × α))
    (cloud : List (PointXYZI α)) : passFilters pass limits cloud = cloud.filter fun point =>
      limits.all fun (axis, minVal, maxVal) => minVal ≤ axis.of point.toPoint && axis.of point.toPoint ≤ maxVal := by
  induction limits generalizing cloud with
  | nil => simp [passFilters]
  | cons limit rest ih =>
    obtain ⟨axis, minVal, maxVal⟩ := limit
    rw [passFilters]
    split
    next empty => simp [List.isEmpty_iff.mp empty]
    next =>
      rw [ih, documented, List.filter_filter]
      simp only [List.all_cons, Bool.and_comm]

theorem passFilters_boxed {pass : PassThrough α} (documented : pass.Documented) (message : CustomMsg α) :
    passFilters pass filters (fillCloud message) = boxed message := by
  rw [passFilters_eq documented]
  simp only [filters, List.all_cons, List.all_nil, Bool.and_true, Bool.and_assoc, boxed, inBox]
  rfl

theorem leaf_pos : (0 : α) < 0.05 := by norm_num

theorem grid_ne_nil (documented : pclFilters.voxelGrid.Documented) {cloud : List (PointXYZI α)} (some : cloud ≠ []) :
    pclFilters.voxelGrid 0.05 0.05 0.05 cloud ≠ [] := by
  obtain ⟨voxels, _, occupied, same⟩ := documented 0.05 0.05 0.05 cloud leaf_pos leaf_pos leaf_pos
  obtain ⟨point, held⟩ := List.exists_mem_of_ne_nil cloud some
  rw [same]
  exact List.ne_nil_of_mem (List.mem_map_of_mem ((occupied _).mpr ⟨point, held, rfl⟩))

theorem callback_eq (documented : pclFilters.Documented) (message : CustomMsg α) : customMsgCallback pclFilters message =
    if boxed message = [] then none else some ⟨message.frameId, pclFilters.voxelGrid 0.05 0.05 0.05 (boxed message)⟩ := by
  unfold customMsgCallback applyFilters
  rw [passFilters_boxed documented.passThrough]
  split
  next none =>
    have empty : boxed message = [] := by simp [boxed, fillCloud, none]
    rw [if_pos empty]
  next =>
    by_cases empty : boxed message = []
    · simp [empty]
    · have kept := grid_ne_nil documented.voxelGrid empty
      simp [empty, kept]

/-- The candidates a message shows to the tracker. -/
def messageCandidates (pcl : Pcl α) (pclFilters : PclFilters α) (parameters : DetectionParameters α) (message : CustomMsg α) :
    List (PoleInfo α) :=
  match customMsgCallback pclFilters message with
  | some published =>
    detectedPoles pcl parameters (fromROSMsg published) (performClustering pcl parameters (fromROSMsg published))
  | none => []

theorem messageCandidates_fresh (message : CustomMsg α) :
    ∀ candidate ∈ messageCandidates pcl pclFilters parameters message, Candidate candidate := by
  unfold messageCandidates
  split
  next published _ => exact detectedPoles_candidates (fromROSMsg published) _
  next => simp

/-- What the tracker is after a message was shown to it. -/
def tracked (pcl : Pcl α) (pclFilters : PclFilters α) (parameters : DetectionParameters α) (message : CustomMsg α)
    (node : PoleDetectionNode α) : PoleDetectionNode α :=
  match customMsgCallback pclFilters message with
  | some published => track parameters (messageCandidates pcl pclFilters parameters message)
      { node with cloud := fromROSMsg published, newData := false }
  | none => node

theorem tracked_ne_nil {node : PoleDetectionNode α} (some : messageCandidates pcl pclFilters parameters message ≠ []) :
    (tracked pcl pclFilters parameters message node).poleList ≠ [] := by
  unfold tracked
  split
  next => exact track_ne_nil (messageCandidates_fresh message) some
  next unsent => simp [messageCandidates, unsent] at some

theorem published_ne_nil {published : PointCloud2 α} (sent : customMsgCallback pclFilters message = some published) :
    fromROSMsg published ≠ [] := by
  unfold customMsgCallback at sent
  split at sent
  · cases sent
  · dsimp only at sent
    split at sent
    · cases sent
    next some =>
      obtain rfl := Option.some.inj sent
      simpa [fromROSMsg] using some

/-! The pipeline -/

/-- To the tracker, the first node is only one more source of clouds. -/
theorem pipeline_refines (pcl : Pcl α) (pclFilters : PclFilters α) (parameters : DetectionParameters α) :
    Machine.Refines (pipeline pcl pclFilters parameters) (poleDetectionNode pcl parameters) id fun _ _ _ => True := by
  refine ⟨rfl, fun {before event after outputs} taken => ?_⟩
  suffices ∃ moves, (poleDetectionNode pcl parameters).Path before moves after by
    obtain ⟨moves, path⟩ := this
    exact ⟨moves, path, fun _ _ => trivial⟩
  cases event with
  | process =>
    have same : (poleDetectionNode pcl parameters).step before .process = some (after, outputs) := taken
    exact ⟨_, Machine.Path.refl.snoc same⟩
  | livox message =>
    simp only [pipeline, Pipeline.step] at taken
    split at taken
    next published _ =>
      have same : (poleDetectionNode pcl parameters).step before (.lidar (fromROSMsg published)) =
        some (after, outputs) := taken
      exact ⟨_, Machine.Path.refl.snoc same⟩
    next =>
      cases taken
      exact ⟨[], .refl⟩

theorem Tracked.track {node : PoleDetectionNode α} {candidates : List (PoleInfo α)} (known : Tracked node)
    (fresh : ∀ candidate ∈ candidates, Candidate candidate) :
    Tracked (PoleDetectionNode.track parameters candidates node) :=
  ⟨(track_step candidates node fresh).sound known.ids, track_recent fresh⟩

theorem Tracked.tracked {node : PoleDetectionNode α} (known : Tracked node) (message : CustomMsg α) :
    Tracked (tracked pcl pclFilters parameters message node) := by
  unfold Proofs.tracked
  split
  next published _ =>
    exact (known.received (fromROSMsg published) false).track (messageCandidates_fresh message)
  next => exact known

/-- A Livox message, and the ticks until the next one. -/
structure Round (α : Type) where
  message : CustomMsg α
  moreTicks : Nat

omit [Arithmetic α] in
/-- The timer runs at least once. -/
def Round.events (round : Round α) : List (Pipeline.Event α) :=
  .livox round.message :: .process :: List.replicate round.moreTicks .process

variable {node : PoleDetectionNode α}

theorem after_ticks (idle : node.newData = false) (ticks : Nat) :
    (pipeline pcl pclFilters parameters).after node (List.replicate ticks .process) = some node := by
  induction ticks with
  | zero => rfl
  | succ ticks ih =>
    have stays : (pipeline pcl pclFilters parameters).step node .process = some (node, []) := by
      simp [pipeline, Pipeline.step, PoleDetectionNode.step, processPointCloud, idle]
    rw [List.replicate_succ, Machine.after, List.foldlM_cons, stays]
    exact ih

theorem tracked_idle (idle : node.newData = false) (message : CustomMsg α) :
    (tracked pcl pclFilters parameters message node).newData = false := by
  unfold tracked
  split
  next => rw [track_eq parameters _ _ (messageCandidates_fresh message)]
  next => exact idle

theorem after_round (idle : node.newData = false) (round : Round α) :
    (pipeline pcl pclFilters parameters).after node round.events =
      some (tracked pcl pclFilters parameters round.message node) := by
  have shown : (pipeline pcl pclFilters parameters).after node [.livox round.message, .process] =
      some (tracked pcl pclFilters parameters round.message node) := by
    cases sent : customMsgCallback pclFilters round.message with
    | none =>
      simp [Machine.after, pipeline, Pipeline.step, PoleDetectionNode.step, processPointCloud, tracked, sent, idle]
    | some published =>
      have held := published_ne_nil sent
      simp [Machine.after, pipeline, Pipeline.step, PoleDetectionNode.step, processPointCloud, lidarCallback,
        analyzeClusters, tracked, messageCandidates, sent, held]
  have events : round.events = [.livox round.message, .process] ++ List.replicate round.moreTicks .process := rfl
  rw [events, Machine.after_append, shown]
  exact after_ticks (tracked_idle idle round.message) round.moreTicks

theorem after_rounds (idle : node.newData = false) (rounds : List (Round α)) :
    let final := rounds.foldl (fun node round => tracked pcl pclFilters parameters round.message node) node
    (pipeline pcl pclFilters parameters).after node (rounds.flatMap Round.events) = some final ∧ final.newData = false := by
  induction rounds generalizing node with
  | nil => exact ⟨rfl, idle⟩
  | cons round rest ih =>
    rw [List.flatMap_cons, Machine.after_append, after_round idle]
    exact ih (tracked_idle idle round.message)

theorem exists_rounds (idle : node.newData = false) (rounds : List (Round α)) : ∃ history,
    (pipeline pcl pclFilters parameters).Path node history
      (rounds.foldl (fun node round => tracked pcl pclFilters parameters round.message node) node) ∧
    history.map Entry.event = rounds.flatMap Round.events := Machine.exists_path (after_rounds idle rounds).1

/-! A message with the given points -/

def scan (points : List (Point α)) : CustomMsg α where
  frameId := "livox_frame"
  pointNum := points.length
  points := points.map fun point => ⟨point.x, point.y, point.z, 0⟩
  counted := by simp

theorem fillCloud_scan (points : List (Point α)) : fillCloud (scan points) = points.map fun point => ⟨point, 0⟩ := by
  simp [fillCloud, scan, List.take_of_length_le]

theorem boxed_scan (points : List (Point α)) :
    boxed (scan points) = (points.filter inBox).map fun point => ⟨point, 0⟩ := by
  rw [boxed, fillCloud_scan, List.filter_map]
  rfl

/-- Points that have a voxel each come through as they are. -/
theorem scan_candidates {points kept : List (Point α)} (inside : points.filter inBox = kept) (some : kept ≠ [])
    (apart : (kept.map (VoxelGrid.voxelOf 0.05 0.05 0.05)).Nodup) :
    messageCandidates pcl .exact parameters (scan points) =
      detectedPoles pcl parameters kept (performClustering pcl parameters kept) := by
  have held : boxed (scan points) = kept.map fun point => ⟨point, 0⟩ := inside ▸ boxed_scan points
  have sent := callback_eq PclFilters.exact_documented (scan points)
  rw [held, if_neg (by simpa using some), PclFilters.exact_voxelGrid,
    VoxelGrid.exact_apart (by simpa [Function.comp_def] using apart)] at sent
  have same : fromROSMsg ⟨(scan points).frameId, kept.map fun point => ⟨point, 0⟩⟩ = kept := by
    simp [fromROSMsg, Function.comp_def]
  simp only [messageCandidates, sent, same]

theorem scan_stick {x : ℝ} (away : 0 ≤ x) (near : x ≤ 2) (others : List (Point ℝ))
    (outside : ∀ point ∈ others, inBox point = false) :
    messageCandidates .exact .exact .declared (scan (stick x ++ others)) =
      detectedPoles .exact .declared (stick x) (performClustering .exact .declared (stick x)) := by
  apply scan_candidates
  · have none : others.filter inBox = [] := by simpa using outside
    rw [List.filter_append, none, List.append_nil, List.filter_eq_self]
    intro point held
    obtain ⟨atX, atY, low, high⟩ := mem_stick held
    simp only [inBox, atX, atY, away, near, Bool.and_eq_true, decide_eq_true_eq]
    norm_num
    constructor <;> linarith
  · exact List.cons_ne_nil _ _
  · have levels : ((stick x).map (VoxelGrid.voxelOf 0.05 0.05 0.05)).map (·.2.2) = [0, 2, 3, 5] := by
      simp only [stick, VoxelGrid.voxelOf, List.map_cons, List.map_nil, List.cons.injEq, Int.floor_eq_iff]
      norm_num
    apply List.Nodup.of_map fun voxel => voxel.2.2
    rw [levels]
    decide

end FlightStack.Proofs
