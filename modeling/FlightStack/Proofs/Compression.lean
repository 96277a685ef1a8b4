import FlightStack.CompressWaypoints
import FlightStack.Library.StraightLine
import Mathlib.Analysis.Normed.Group.AddTorsor
import Mathlib.Tactic.Linarith
import Mathlib.Tactic.FieldSimp

/-! What `compress_waypoints` keeps. Its loop only decides which indices stay; the
rest is laid out from one kept index to the next. Straightness is judged from above
and with a tolerance, so only a run that is exactly straight there is kept in shape. -/

namespace FlightStack.Proofs
open CompressWaypoints
variable {α : Type} [Arithmetic α] {raw : List (WaypointRow α)}

/-- The loop keeps the point at this index. -/
def keepsAt (raw : List (WaypointRow α)) (index : Nat) : Bool :=
  match raw[index - 1]?, raw[index]?, raw[index + 1]? with
  | some prev, some curr, some next => isKept prev curr next
  | _, _, _ => false

/-- The indices that stay: the two ends, and what the loop keeps. -/
def keptIndices (raw : List (WaypointRow α)) : List Nat :=
  (List.range raw.length).filter fun index => index = 0 ∨ index + 1 = raw.length ∨ keepsAt raw index = true

/-- What is put between two kept points: the middle of a long run. -/
def inserted (raw : List (WaypointRow α)) (start finish : Nat) : List (WaypointRow α) :=
  if 4 ≤ finish - start - 1 then
    match raw[start]?, raw[finish - 1]? with
    | some lineStart, some lineEnd => [CompressWaypoints.midpoint lineStart lineEnd]
    | _, _ => []
  else []

/-- The way from one kept index on through the others. -/
def route (raw : List (WaypointRow α)) : Nat → List Nat → List (WaypointRow α)
  | _, [] => []
  | start, finish :: rest => inserted raw start finish ++ raw[finish]?.toList ++ route raw finish rest

/-- The rows at the kept indices, and what is put between them. -/
def layout (raw : List (WaypointRow α)) : List Nat → List (WaypointRow α)
  | [] => []
  | start :: rest => raw[start]?.toList ++ route raw start rest

theorem route_snoc (start finish : Nat) (indices : List Nat) :
    route raw start (indices ++ [finish]) = route raw start indices ++
      (inserted raw ((start :: indices).getLast (List.cons_ne_nil _ _)) finish ++ raw[finish]?.toList) := by
  induction indices generalizing start with
  | nil => simp [route]
  | cons index rest ih => simp [route, ih]

/-- The loop after `count` points. -/
structure Scanned (raw : List (WaypointRow α)) (first : WaypointRow α) (count last : Nat) (scan : Scan α) : Prop where
  latest : (0 :: (List.range' 1 count).filter (keepsAt raw)).getLast (List.cons_ne_nil _ _) = last
  within : last ≤ count
  laid : scan.waypoints = first :: route raw 0 ((List.range' 1 count).filter (keepsAt raw))
  line : scan.currentLinePoints = List.range' (last + 1) (count - last)
  start : last < count → scan.lineStartIdx = last

theorem Scanned.merged {first : WaypointRow α} {count last : Nat} {scan : Scan α}
    (scanned : Scanned raw first count last scan) : merge raw count scan =
      first :: route raw 0 ((List.range' 1 count).filter (keepsAt raw)) ++ inserted raw last (count + 1) := by
  have length : scan.currentLinePoints.length = count + 1 - last - 1 := by
    rw [scanned.line, List.length_range']
    omega
  rw [merge, inserted, length, ← scanned.laid]
  split
  next long =>
    rw [scanned.start (by omega), Nat.add_sub_cancel]
    cases raw[last]? <;> cases raw[count]? <;> simp
  next => simp

theorem keeps_succ (raw : List (WaypointRow α)) (count : Nat) : (List.range' 1 (count + 1)).filter (keepsAt raw) =
    (List.range' 1 count).filter (keepsAt raw) ++ [count + 1].filter (keepsAt raw) := by
  rw [List.range'_concat, Nat.one_mul, Nat.add_comm 1, List.filter_append]

theorem Scanned.keep {first curr : WaypointRow α} {count last : Nat} {scan : Scan α}
    (scanned : Scanned raw first count last scan) (kept : keepsAt raw (count + 1) = true)
    (found : raw[count + 1]? = some curr) :
    Scanned raw first (count + 1) (count + 1) ⟨merge raw count scan ++ [curr], count + 1, []⟩ := by
  have grown := keeps_succ raw count
  rw [List.filter_singleton, kept, cond_true] at grown
  refine ⟨?_, Nat.le_refl _, ?_, by simp, fun below => absurd below (Nat.lt_irrefl _)⟩
  · simp [grown]
  · rw [scanned.merged, grown, route_snoc, scanned.latest, found]
    simp

theorem Scanned.drop {first : WaypointRow α} {count last : Nat} {scan : Scan α}
    (scanned : Scanned raw first count last scan) (dropped : keepsAt raw (count + 1) = false) :
    Scanned raw first (count + 1) last { scan with
      lineStartIdx := if scan.currentLinePoints.isEmpty then count else scan.lineStartIdx
      currentLinePoints := scan.currentLinePoints ++ [count + 1] } := by
  have same := keeps_succ raw count
  rw [List.filter_singleton, dropped, cond_false, List.append_nil] at same
  refine ⟨?_, Nat.le_succ_of_le scanned.within, by rw [same]; exact scanned.laid, ?_, ?_⟩
  · simpa only [same] using scanned.latest
  · rw [scanned.line, Nat.succ_sub scanned.within, List.range'_concat, Nat.one_mul, Nat.add_right_comm,
      Nat.add_sub_of_le scanned.within]
  · intro _
    dsimp only
    split
    next fresh =>
      have := scanned.within
      rw [scanned.line, List.isEmpty_iff, List.range'_eq_nil_iff] at fresh
      omega
    next older =>
      apply scanned.start
      have := scanned.within
      rw [scanned.line, List.isEmpty_iff, List.range'_eq_nil_iff] at older
      omega

theorem Scanned.visit {first : WaypointRow α} {count last : Nat} {scan : Scan α}
    (scanned : Scanned raw first count last scan) (more : count + 2 < raw.length) :
    ∃ last, Scanned raw first (count + 1) last (visit raw scan (count + 1)) := by
  have prev := List.getElem?_eq_getElem (show count < raw.length by omega)
  have curr := List.getElem?_eq_getElem (show count + 1 < raw.length by omega)
  have next := List.getElem?_eq_getElem more
  have decides : keepsAt raw (count + 1) = isKept raw[count] raw[count + 1] raw[count + 2] := by
    simp [keepsAt, prev, curr, next]
  simp only [CompressWaypoints.visit, Nat.add_sub_cancel, prev, curr, next]
  split
  next kept => exact ⟨count + 1, scanned.keep (decides.trans kept) curr⟩
  next dropped => exact ⟨last, scanned.drop (decides.trans (Bool.eq_false_of_not_eq_true dropped))⟩

theorem scanned_loop (first : WaypointRow α) {count : Nat} (more : count + 1 < raw.length) :
    ∃ last, Scanned raw first count last ((List.range' 1 count).foldl (visit raw) ⟨[first], 0, []⟩) := by
  induction count with
  | zero => exact ⟨0, rfl, Nat.le_refl 0, rfl, rfl, fun below => absurd below (Nat.lt_irrefl 0)⟩
  | succ count ih =>
    obtain ⟨last, scanned⟩ := ih (by omega)
    rw [List.range'_concat, Nat.one_mul, Nat.add_comm 1, List.foldl_append, List.foldl_cons, List.foldl_nil]
    exact scanned.visit more

/-- The compressed list, without the loop. -/
theorem compress_eq {first : WaypointRow α} {rest : List (WaypointRow α)} (long : 1 < rest.length) :
    compressWaypoints (first :: rest) = first :: route (first :: rest) 0
      ((List.range' 1 (rest.length - 1)).filter (keepsAt (first :: rest)) ++ [rest.length]) := by
  match rest, long with
  | second :: third :: rest, _ =>
    let raw := first :: second :: third :: rest
    obtain ⟨last, scanned⟩ : ∃ last, Scanned raw first (rest.length + 1) last _ := scanned_loop first (by simp [raw])
    have final : raw.getLast? = raw[rest.length + 2]? := by simp [raw, List.getLast?_eq_getElem?]
    change merge raw (rest.length + 1) ((List.range' 1 (rest.length + 1)).foldl (visit raw) ⟨[first], 0, []⟩) ++
      raw.getLast?.toList = first :: route raw 0
        ((List.range' 1 (rest.length + 1)).filter (keepsAt raw) ++ [rest.length + 2])
    rw [scanned.merged, final, route_snoc, scanned.latest]
    simp

theorem keptIndices_eq {first : WaypointRow α} {rest : List (WaypointRow α)} (long : 0 < rest.length) :
    keptIndices (first :: rest) =
      0 :: ((List.range' 1 (rest.length - 1)).filter (keepsAt (first :: rest)) ++ [rest.length]) := by
  obtain ⟨inner, count⟩ := Nat.exists_eq_add_of_lt long
  rw [Nat.zero_add] at count
  have indices : List.range (first :: rest).length = 0 :: (List.range' 1 inner ++ [inner + 1]) := by
    rw [List.length_cons, count, List.range_eq_range', List.range'_succ, List.range'_concat, Nat.one_mul, Nat.add_comm 1]
  have middle : (List.range' 1 inner).filter (fun index =>
      index = 0 ∨ index + 1 = (first :: rest).length ∨ keepsAt (first :: rest) index = true) =
      (List.range' 1 inner).filter (keepsAt (first :: rest)) := by
    apply List.filter_congr
    intro index member
    have bounds := List.mem_range'_1.mp member
    have notFirst : index ≠ 0 := by omega
    have notLast : index ≠ inner + 1 := by omega
    simp [count, notFirst, notLast]
  rw [keptIndices, indices, List.filter_cons_of_pos (by simp), List.filter_append, middle, count, Nat.add_sub_cancel,
    List.filter_cons_of_pos (by simp [count]), List.filter_nil]

theorem compress_layout (raw : List (WaypointRow α)) : compressWaypoints raw = layout raw (keptIndices raw) := by
  match raw with
  | [] => rfl
  | [only] => rfl
  | [first, second] => simp [compressWaypoints, keptIndices_eq, layout, route, inserted]
  | first :: second :: third :: rest =>
    rw [compress_eq (by simp), keptIndices_eq (by simp)]
    rfl

/-! Straight runs -/

def plan (row : WaypointRow α) : α × α := (row.x, row.y)

def place (row : WaypointRow α) : α × α × α := (row.x, row.y, row.z)

/-- Without a tolerance, the loop's two tests mean that the point lies between its neighbours. -/
theorem sbtw_plan {prev curr next : WaypointRow α} (parallel : CompressWaypoints.crossProduct prev curr next = 0)
    (onward : 0 < CompressWaypoints.dotProduct prev curr next) : Sbtw α (plan prev) (plan curr) (plan next) :=
  sbtw_of_parallel parallel onward

section Run
variable {P : Type} [AddCommGroup P] [Module α P] (view : WaypointRow α → P)

/-- Each point strictly between the two indices lies between its neighbours. -/
def StraightRun (raw : List (WaypointRow α)) (start finish : Nat) : Prop :=
  ∀ index prev curr next, start < index → index < finish → raw[index - 1]? = some prev → raw[index]? = some curr →
    raw[index + 1]? = some next → Sbtw α (view prev) (view curr) (view next)

variable {view}

theorem StraightRun.between {start index finish : Nat} {first curr last : WaypointRow α}
    (straight : StraightRun view raw start finish) (after : start ≤ index) (before : index ≤ finish)
    (atStart : raw[start]? = some first) (here : raw[index]? = some curr) (atFinish : raw[finish]? = some last) :
    Wbtw α (view first) (view curr) (view last) := by
  -- outside the list the point does not matter
  let point (offset : Nat) := view ((raw[start + offset]?).getD first)
  have inside := (List.getElem?_eq_some_iff.mp atFinish).1
  have chain := straight_chain (R := α) point (finish - start) (by
    intro offset within
    have prev := List.getElem?_eq_getElem (show start + offset < raw.length by omega)
    have curr := List.getElem?_eq_getElem (show start + (offset + 1) < raw.length by omega)
    have next := List.getElem?_eq_getElem (show start + (offset + 2) < raw.length by omega)
    simp only [point, prev, curr, next, Option.getD_some]
    exact straight (start + (offset + 1)) _ _ _ (by omega) (by omega) prev curr next)
  have spanned := chain (index - start) (by omega)
  simpa only [point, Nat.add_zero, Nat.add_sub_of_le after, Nat.add_sub_of_le (after.trans before), atStart, here,
    atFinish, Option.getD_some] using spanned

/-- The point in the middle of a straight run lies on it. -/
theorem StraightRun.middle (halves : ∀ lineStart lineEnd : WaypointRow α,
      view (CompressWaypoints.midpoint lineStart lineEnd) = AffineMap.lineMap (view lineStart) (view lineEnd) (1 / 2 : α))
    {start finish : Nat} {first last middle : WaypointRow α} (straight : StraightRun view raw start finish)
    (atStart : raw[start]? = some first) (atFinish : raw[finish]? = some last)
    (put : middle ∈ inserted raw start finish) : Wbtw α (view first) (view middle) (view last) := by
  unfold inserted at put
  split at put
  next long =>
    split at put
    next lineStart lineEnd here there =>
      cases atStart.symm.trans here
      rw [List.mem_singleton.mp put, halves]
      have reached := straight.between (by omega) (by omega) atStart there atFinish
      have half : Wbtw α (view first) (AffineMap.lineMap (view first) (view lineEnd) (1 / 2 : α)) (view lineEnd) :=
        ⟨1 / 2, ⟨by norm_num, by norm_num⟩, rfl⟩
      exact reached.trans_left half
    next => cases put
  next => cases put

end Run

theorem plan_middle (lineStart lineEnd : WaypointRow α) : plan (CompressWaypoints.midpoint lineStart lineEnd) =
    AffineMap.lineMap (plan lineStart) (plan lineEnd) (1 / 2 : α) := by
  apply Prod.ext <;> simp only [plan, CompressWaypoints.midpoint, AffineMap.lineMap_apply, vsub_eq_sub, vadd_eq_add,
    Prod.fst_add, Prod.snd_add, Prod.smul_fst, Prod.smul_snd, Prod.fst_sub, Prod.snd_sub, smul_eq_mul] <;> ring

theorem place_middle (lineStart lineEnd : WaypointRow α) : place (CompressWaypoints.midpoint lineStart lineEnd) =
    AffineMap.lineMap (place lineStart) (place lineEnd) (1 / 2 : α) := by
  refine Prod.ext ?_ (Prod.ext ?_ ?_) <;> simp only [place, CompressWaypoints.midpoint, AffineMap.lineMap_apply,
    vsub_eq_sub, vadd_eq_add, Prod.fst_add, Prod.snd_add, Prod.smul_fst, Prod.smul_snd, Prod.fst_sub, Prod.snd_sub,
    smul_eq_mul] <;> ring

/-! Dropped points -/

theorem mem_keptIndices {index : Nat} : index ∈ keptIndices raw ↔
    index < raw.length ∧ (index = 0 ∨ index + 1 = raw.length ∨ keepsAt raw index = true) := by
  simp [keptIndices]

/-- The kept indices next to a dropped one, on both sides. -/
structure Surrounds (raw : List (WaypointRow α)) (start index finish : Nat) : Prop where
  after : start < index
  before : index < finish
  startKept : start ∈ keptIndices raw
  finishKept : finish ∈ keptIndices raw
  alone : ∀ between, start < between → between < finish → between ∉ keptIndices raw

theorem surrounded {index : Nat} (inside : index < raw.length) (dropped : index ∉ keptIndices raw) :
    ∃ start finish, Surrounds raw start index finish := by
  have firstKept : 0 ∈ keptIndices raw := mem_keptIndices.mpr ⟨by omega, .inl rfl⟩
  have lastKept : raw.length - 1 ∈ keptIndices raw := mem_keptIndices.mpr ⟨by omega, .inr (.inl (by omega))⟩
  have later : ∃ finish, index < finish ∧ finish ∈ keptIndices raw := by
    refine ⟨raw.length - 1, Nat.lt_of_le_of_ne (by omega) fun same => dropped ?_, lastKept⟩
    rwa [same]
  have startKept : Nat.findGreatest (· ∈ keptIndices raw) index ∈ keptIndices raw :=
    Nat.findGreatest_spec (P := (· ∈ keptIndices raw)) (Nat.zero_le index) firstKept
  obtain ⟨before, finishKept⟩ := Nat.find_spec later
  refine ⟨_, _, Nat.lt_of_le_of_ne (Nat.findGreatest_le index) fun same => dropped ?_, before, startKept, finishKept, ?_⟩
  · rwa [same] at startKept
  · intro between after inner kept
    rcases Nat.lt_or_ge index between with beyond | within
    · exact Nat.find_min later inner ⟨beyond, kept⟩
    · exact Nat.findGreatest_is_greatest after within kept

/-- The loop drops a point only after both of its tests. -/
theorem dropped_tests {index : Nat} {curr : WaypointRow α} (here : raw[index]? = some curr)
    (dropped : index ∉ keptIndices raw) : 0 < index ∧ ∃ prev next, raw[index - 1]? = some prev ∧
      raw[index + 1]? = some next ∧ |CompressWaypoints.crossProduct prev curr next| ≤ 1e-6 ∧
      -1e-6 ≤ CompressWaypoints.dotProduct prev curr next := by
  have inside := (List.getElem?_eq_some_iff.mp here).1
  have skipped : ¬ (index = 0 ∨ index + 1 = raw.length ∨ keepsAt raw index = true) :=
    fun kept => dropped (mem_keptIndices.mpr ⟨inside, kept⟩)
  simp only [not_or] at skipped
  obtain ⟨notFirst, notLast, skipped⟩ := skipped
  have prev := List.getElem?_eq_getElem (show index - 1 < raw.length by omega)
  have next := List.getElem?_eq_getElem (show index + 1 < raw.length by omega)
  refine ⟨Nat.pos_of_ne_zero notFirst, _, _, prev, next, ?_⟩
  simp only [keepsAt, prev, here, next, isKept, isUturn, Bool.or_eq_true, not_or, decide_eq_true_eq, not_lt] at skipped
  refine ⟨skipped.1, ?_⟩
  have turn := skipped.2
  rw [if_pos skipped.1] at turn
  simpa using turn

/-- Along the whole run both tests hold exactly, with steps that lead onward. -/
def ParallelRun (raw : List (WaypointRow α)) (start finish : Nat) : Prop :=
  ∀ index prev curr next, start < index → index < finish → raw[index - 1]? = some prev → raw[index]? = some curr →
    raw[index + 1]? = some next →
    CompressWaypoints.crossProduct prev curr next = 0 ∧ 0 < CompressWaypoints.dotProduct prev curr next

theorem ParallelRun.straight {start finish : Nat} (parallel : ParallelRun raw start finish) :
    StraightRun plan raw start finish := by
  intro index prev curr next after before atPrev here atNext
  obtain ⟨along, onward⟩ := parallel index prev curr next after before atPrev here atNext
  exact sbtw_plan along onward

theorem dropped_waypoints (raw : List (WaypointRow α)) :
    compressWaypoints raw = layout raw (keptIndices raw) ∧
    ∀ index curr, raw[index]? = some curr → index ∉ keptIndices raw →
      (0 < index ∧ ∃ prev next, raw[index - 1]? = some prev ∧ raw[index + 1]? = some next ∧
        |CompressWaypoints.crossProduct prev curr next| ≤ 1e-6 ∧ -1e-6 ≤ CompressWaypoints.dotProduct prev curr next) ∧
      ∃ start finish first last, Surrounds raw start index finish ∧ raw[start]? = some first ∧
        raw[finish]? = some last ∧
        (ParallelRun raw start finish → Wbtw α (plan first) (plan curr) (plan last) ∧
          ∀ middle ∈ inserted raw start finish, Wbtw α (plan first) (plan middle) (plan last)) ∧
        (StraightRun place raw start finish → Wbtw α (place first) (place curr) (place last) ∧
          ∀ middle ∈ inserted raw start finish, Wbtw α (place first) (place middle) (place last)) := by
  refine ⟨compress_layout raw, fun index curr here dropped => ⟨dropped_tests here dropped, ?_⟩⟩
  obtain ⟨start, finish, around⟩ := surrounded (List.getElem?_eq_some_iff.mp here).1 dropped
  have atStart := List.getElem?_eq_getElem (mem_keptIndices.mp around.startKept).1
  have atFinish := List.getElem?_eq_getElem (mem_keptIndices.mp around.finishKept).1
  refine ⟨start, finish, _, _, around, atStart, atFinish, fun parallel => ?_, fun straight => ?_⟩
  · exact ⟨parallel.straight.between around.after.le around.before.le atStart here atFinish,
      fun middle put => parallel.straight.middle plan_middle atStart atFinish put⟩
  · exact ⟨straight.between around.after.le around.before.le atStart here atFinish,
      fun middle put => straight.middle place_middle atStart atFinish put⟩

/-- A hump in a line that is straight from above is dropped. -/
theorem hump_dropped : ∃ first curr last : WaypointRow ℝ, compressWaypoints [first, curr, last] = [first, last] ∧
    ¬ Wbtw ℝ (place first) (place curr) (place last) := by
  refine ⟨⟨⟨0, 0, 1⟩, []⟩, ⟨⟨1, 0, 2⟩, []⟩, ⟨⟨2, 0, 1⟩, []⟩, ?_, ?_⟩
  · norm_num [compressWaypoints, visit, isKept, isUturn, CompressWaypoints.crossProduct, CompressWaypoints.dotProduct, merge]
  · intro between
    obtain ⟨part, _, reached⟩ := between
    have height := congrArg (fun place => place.2.2) reached
    norm_num [place, AffineMap.lineMap_apply] at height

end FlightStack.Proofs
