import FlightStack.Library.Thinning
import FlightStack.Proofs.Compression

/-! The waypoints `compress_waypoints` puts out: the key points, and one more in each
long run between two of them. That one is the middle of the run up to the last point
that was left out, so it is the middle of its neighbours in the list only if that
point stands where the next key point does. -/

namespace FlightStack.Proofs
open CompressWaypoints
variable {α : Type} [Arithmetic α] {raw : List (WaypointRow α)}

/-- The two ends, the corners, and the points where a straight line turns back. -/
def KeyPoint (raw : List (WaypointRow α)) (index : Nat) : Prop :=
  index < raw.length ∧ (index = 0 ∨ index + 1 = raw.length ∨
    ∃ prev curr next, raw[index - 1]? = some prev ∧ raw[index]? = some curr ∧ raw[index + 1]? = some next ∧
      (1e-6 < |CompressWaypoints.crossProduct prev curr next| ∨
        |CompressWaypoints.crossProduct prev curr next| ≤ 1e-6 ∧ CompressWaypoints.dotProduct prev curr next < -1e-6))

theorem isKept_iff (prev curr next : WaypointRow α) : isKept prev curr next = true ↔
    1e-6 < |CompressWaypoints.crossProduct prev curr next| ∨
      |CompressWaypoints.crossProduct prev curr next| ≤ 1e-6 ∧ CompressWaypoints.dotProduct prev curr next < -1e-6 := by
  rw [isKept, isUturn]
  split
  next aligned => simp [aligned]
  next turned => simp [turned]

theorem keepsAt_iff {index : Nat} : keepsAt raw index = true ↔
    ∃ prev curr next, raw[index - 1]? = some prev ∧ raw[index]? = some curr ∧ raw[index + 1]? = some next ∧
      isKept prev curr next = true := by
  unfold keepsAt
  split
  next prev curr next atPrev here atNext => simp [atPrev, here, atNext]
  next missing =>
    apply iff_of_false Bool.false_ne_true
    intro found
    obtain ⟨prev, curr, next, atPrev, here, atNext, _⟩ := found
    exact missing prev curr next atPrev here atNext

theorem mem_keptIndices_iff {index : Nat} : index ∈ keptIndices raw ↔ KeyPoint raw index := by
  simp only [mem_keptIndices, KeyPoint, keepsAt_iff, isKept_iff]

theorem keptIndices_sorted (raw : List (WaypointRow α)) : (keptIndices raw).Pairwise (· < ·) :=
  List.pairwise_lt_range.sublist List.filter_sublist

theorem inserted_near {start finish : Nat} (few : finish - start - 1 < 4) : inserted raw start finish = [] :=
  if_neg (not_le.mpr few)

theorem inserted_far {start finish : Nat} {lineStart lineEnd : WaypointRow α} (many : 4 ≤ finish - start - 1)
    (first : raw[start]? = some lineStart) (last : raw[finish - 1]? = some lineEnd) :
    inserted raw start finish = [CompressWaypoints.midpoint lineStart lineEnd] := by
  rw [inserted, if_pos many, first, last]

theorem layout_cons_cons (start finish : Nat) (keys : List Nat) : layout raw (start :: finish :: keys) =
    raw[start]?.toList ++ (inserted raw start finish ++ layout raw (finish :: keys)) := by
  simp only [layout, route, List.append_assoc]

theorem layout_thinned {keys : List Nat} (some : keys ≠ []) (inside : ∀ index ∈ keys, index < raw.length) :
    Thinned 4 raw keys (layout raw keys) := by
  induction keys with
  | nil => exact absurd rfl some
  | cons index keys ih =>
    have here := List.getElem?_eq_getElem (inside index List.mem_cons_self)
    cases keys with
    | nil =>
      rw [layout, route, here]
      exact .last here
    | cons next keys =>
      have later := ih (List.cons_ne_nil _ _) fun index member => inside index (List.mem_cons_of_mem _ member)
      have within := inside next (List.mem_cons_of_mem _ List.mem_cons_self)
      rw [layout_cons_cons, here]
      rcases Nat.lt_or_ge (next - index - 1) 4 with few | many
      · rw [inserted_near few]
        exact .near here few later
      · rw [inserted_far many here (List.getElem?_eq_getElem (show next - 1 < raw.length by omega))]
        exact .far here many later

theorem compress_thinned (some : raw ≠ []) : Thinned 4 raw (keptIndices raw) (compressWaypoints raw) := by
  rw [compress_layout]
  apply layout_thinned
  · apply List.ne_nil_of_mem
    exact mem_keptIndices.mpr ⟨List.length_pos_of_ne_nil some, .inl rfl⟩
  · intro index member
    exact (mem_keptIndices.mp member).1

theorem compress_short (short : raw.length < 3) : compressWaypoints raw = raw := by
  match raw, short with
  | [], _ | [_], _ | [_, _], _ => rfl

/-- The compressed list consists of the key points, thinned as the relation says. -/
theorem compress_key_points (raw : List (WaypointRow α)) :
    (raw.length < 3 → compressWaypoints raw = raw) ∧
    (3 ≤ raw.length → ∃ keys, keys.Pairwise (· < ·) ∧ (∀ index, index ∈ keys ↔ KeyPoint raw index) ∧
      Thinned 4 raw keys (compressWaypoints raw) ∧ (compressWaypoints raw).head? = raw.head? ∧
      (compressWaypoints raw).getLast? = raw.getLast? ∧ (compressWaypoints raw).length ≤ raw.length) := by
  refine ⟨compress_short, fun long => ⟨keptIndices raw, keptIndices_sorted raw, fun _ => mem_keptIndices_iff, ?_⟩⟩
  obtain ⟨first, rest, rfl⟩ := List.exists_cons_of_length_pos (Nat.lt_of_lt_of_le (by decide) long)
  have thinned := compress_thinned (List.cons_ne_nil first rest)
  have sorted := keptIndices_sorted (first :: rest)
  rw [List.length_cons] at long
  have ends : keptIndices (first :: rest) = _ := keptIndices_eq (by omega)
  refine ⟨thinned, ?_, ?_, ?_⟩
  · rw [ends] at thinned
    exact thinned.head
  · rw [thinned.final, ends, ← List.cons_append, List.getLast?_concat, Option.bind_some,
      List.getLast?_eq_getElem?, List.length_cons, Nat.add_sub_cancel]
  · rw [ends] at thinned sorted
    simpa only [Nat.zero_add] using thinned.length_le (by decide) sorted

/-! Midpoints -/

/-- The row stands between two kept ones that follow each other: what comes before
it is the list up to the one, and what comes after it is the list from the other on. -/
structure Fills (raw : List (WaypointRow α)) (start finish : Nat) (before : List (WaypointRow α))
    (middle : WaypointRow α) (after : List (WaypointRow α)) : Prop where
  adjacent : ∃ earlier later, keptIndices raw = earlier ++ start :: finish :: later ∧
    before = layout raw (earlier ++ [start]) ∧ after = layout raw (finish :: later)
  whole : compressWaypoints raw = before ++ middle :: after

/-- The last point left out of each long run stands where the kept point after it does. -/
def EndsInPlace (raw : List (WaypointRow α)) : Prop :=
  ∀ earlier start finish later lineEnd last, keptIndices raw = earlier ++ start :: finish :: later →
    4 ≤ finish - start - 1 → raw[finish - 1]? = some lineEnd → raw[finish]? = some last → place lineEnd = place last

/-- In each coordinate the row is the mean of the other two. -/
structure Halves (left middle right : WaypointRow α) : Prop where
  x : middle.x = (left.x + right.x) / 2
  y : middle.y = (left.y + right.y) / 2
  z : middle.z = (left.z + right.z) / 2

theorem halves_iff {left lineEnd right : WaypointRow α} :
    Halves left (CompressWaypoints.midpoint left lineEnd) right ↔ place lineEnd = place right := by
  have half {first second third : α} : (first + second) / 2 = (first + third) / 2 ↔ second = third := by
    rw [div_left_inj' two_ne_zero, add_right_inj]
  constructor
  · intro halves
    exact Prod.ext (half.mp halves.x) (Prod.ext (half.mp halves.y) (half.mp halves.z))
  · intro same
    have planar := congrArg Prod.snd same
    exact ⟨half.mpr (congrArg Prod.fst same), half.mpr (congrArg Prod.fst planar), half.mpr (congrArg Prod.snd planar)⟩

theorem route_append (first start finish : Nat) (earlier later : List Nat) :
    route raw first (earlier ++ start :: finish :: later) =
      route raw first (earlier ++ [start]) ++ (inserted raw start finish ++ layout raw (finish :: later)) := by
  induction earlier generalizing first with
  | nil => simp [route, layout]
  | cons index earlier ih => simp [route, ih]

theorem layout_append (start finish : Nat) (earlier later : List Nat) :
    layout raw (earlier ++ start :: finish :: later) =
      layout raw (earlier ++ [start]) ++ (inserted raw start finish ++ layout raw (finish :: later)) := by
  cases earlier with
  | nil => simp [layout, route]
  | cons index earlier =>
    simp only [List.cons_append, layout.eq_2 raw index, route_append, List.append_assoc]

/-- Two kept points that follow each other, and the list on either side of the gap. -/
structure Gap (raw : List (WaypointRow α)) (start finish : Nat) (before after : List (WaypointRow α)) : Prop where
  whole : compressWaypoints raw = before ++ (inserted raw start finish ++ after)
  left : ∃ row, raw[start]? = some row ∧ before.getLast? = some row
  right : ∃ row, raw[finish]? = some row ∧ after.head? = some row

theorem gap {start finish : Nat} {earlier later : List Nat} (keys : keptIndices raw = earlier ++ start :: finish :: later) :
    Gap raw start finish (layout raw (earlier ++ [start])) (layout raw (finish :: later)) := by
  have kept (index : Nat) (member : index ∈ earlier ++ start :: finish :: later) : index < raw.length :=
    (mem_keptIndices.mp (keys ▸ member)).1
  have upTo : Thinned 4 raw (earlier ++ [start]) (layout raw (earlier ++ [start])) := by
    apply layout_thinned (by simp)
    intro index member
    apply kept
    rcases List.mem_append.mp member with before | last
    · exact List.mem_append_left _ before
    · exact List.mem_append_right _ (List.mem_singleton.mp last ▸ List.mem_cons_self)
  have onward : Thinned 4 raw (finish :: later) (layout raw (finish :: later)) := by
    apply layout_thinned (List.cons_ne_nil _ _)
    intro index member
    exact kept index (List.mem_append_right _ (List.mem_cons_of_mem _ member))
  have first := List.getElem?_eq_getElem (kept start (by simp))
  have last := List.getElem?_eq_getElem (kept finish (by simp))
  refine ⟨?_, ⟨_, first, ?_⟩, ⟨_, last, ?_⟩⟩
  · rw [compress_layout, keys, layout_append]
  · rw [upTo.final, List.getLast?_concat, Option.bind_some, first]
  · rw [onward.head, last]

/-- What is put into a gap is the mean of its neighbours in the list, everywhere,
exactly when each long run ends in place. -/
theorem inserted_midpoints (raw : List (WaypointRow α)) :
    (∀ start finish before middle after, Fills raw start finish before middle after →
      ∃ left right, before.getLast? = some left ∧ after.head? = some right ∧ Halves left middle right) ↔
      EndsInPlace raw := by
  constructor
  · intro halved earlier start finish later lineEnd last keys many atEnd atFinish
    have gap := gap keys
    obtain ⟨first, atStart, atLeft⟩ := gap.left
    obtain ⟨row, there, atRight⟩ := gap.right
    have whole := gap.whole
    rw [inserted_far many atStart atEnd] at whole
    obtain ⟨left, right, ends, starts, halves⟩ := halved start finish _ _ _ ⟨⟨earlier, later, keys, rfl, rfl⟩, whole⟩
    cases atLeft.symm.trans ends
    cases atRight.symm.trans starts
    cases there.symm.trans atFinish
    exact halves_iff.mp halves
  · intro inPlace start finish before middle after fills
    obtain ⟨⟨earlier, later, keys, rfl, rfl⟩, whole⟩ := fills
    have gap := gap keys
    obtain ⟨left, atStart, atLeft⟩ := gap.left
    obtain ⟨right, atFinish, atRight⟩ := gap.right
    have same := List.append_cancel_left (gap.whole.symm.trans whole)
    rcases Nat.lt_or_ge (finish - start - 1) 4 with few | many
    · rw [inserted_near few, List.nil_append] at same
      exact absurd (congrArg List.length same) (by simp)
    · have inside := (List.getElem?_eq_some_iff.mp atFinish).1
      have atEnd := List.getElem?_eq_getElem (show finish - 1 < raw.length by omega)
      rw [inserted_far many atStart atEnd, List.singleton_append] at same
      refine ⟨left, right, atLeft, atRight, ?_⟩
      rw [← (List.cons.inj same).1]
      exact halves_iff.mpr (inPlace earlier start finish later _ right keys many atEnd atFinish)

/-- Six points of a straight line: the middle of the first five is put in. -/
theorem inserted_off_center : ¬ ∀ start finish before middle after,
    Fills ([⟨⟨0, 0, 1⟩, []⟩, ⟨⟨1, 0, 1⟩, []⟩, ⟨⟨2, 0, 1⟩, []⟩, ⟨⟨3, 0, 1⟩, []⟩, ⟨⟨4, 0, 1⟩, []⟩, ⟨⟨5, 0, 1⟩, []⟩] :
      List (WaypointRow ℝ)) start finish before middle after →
    ∃ left right, before.getLast? = some left ∧ after.head? = some right ∧ Halves left middle right := by
  let row (x : ℝ) : WaypointRow ℝ := ⟨⟨x, 0, 1⟩, []⟩
  have dropped (prev curr next : ℝ) (onward : 0 < (curr - prev) * (next - curr)) :
      isKept (row prev) (row curr) (row next) = false := by
    have back : ¬ (curr - prev) * (next - curr) < -1e-6 := by norm_num; linarith
    simp [isKept, isUturn, CompressWaypoints.crossProduct, CompressWaypoints.dotProduct, row, back]
    norm_num
  have keys : keptIndices [row 0, row 1, row 2, row 3, row 4, row 5] = [0, 5] := by
    rw [keptIndices_eq (by simp)]
    simp [List.range', keepsAt, dropped 0 1 2 (by norm_num), dropped 1 2 3 (by norm_num), dropped 2 3 4 (by norm_num),
      dropped 3 4 5 (by norm_num)]
  have fills : Fills [row 0, row 1, row 2, row 3, row 4, row 5] 0 5 [row 0]
      (CompressWaypoints.midpoint (row 0) (row 4)) [row 5] := by
    refine ⟨⟨[], [], keys, rfl, rfl⟩, ?_⟩
    rw [compress_layout, keys]
    rfl
  intro claimed
  obtain ⟨left, right, ends, starts, halves⟩ := claimed 0 5 _ _ _ fills
  cases ends
  cases starts
  have off := halves.x
  norm_num [CompressWaypoints.midpoint, row] at off

end FlightStack.Proofs
