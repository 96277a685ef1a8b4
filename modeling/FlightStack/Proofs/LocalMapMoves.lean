import FlightStack.LocalMap
import FlightStack.Library.LockStep

/-! The box that the map is kept in. It holds the lidar with a margin where it is large
enough and the lidar is slow enough, and what falls out of it is deleted. -/

namespace FlightStack.Proofs
open LocalMap
variable {α : Type} [Arithmetic α] {params : Parameters α} {box : BoxPointType α} {posLid : V3D α}

/-- How far a call moves the map along an axis -/
def shift (params : Parameters α) (box : BoxPointType α) (posLid : V3D α) (i : Fin 3) : α :=
  if (distToMapEdge box posLid i).1 ≤ params.nearEdge then -params.movDist
  else if (distToMapEdge box posLid i).2 ≤ params.nearEdge then params.movDist else 0

/-- What is deleted because of the move along an axis -/
def leftBehind (params : Parameters α) (box : BoxPointType α) (posLid : V3D α) (i : Fin 3) : Option (BoxPointType α) :=
  if (distToMapEdge box posLid i).1 ≤ params.nearEdge then
    some { box with vertexMin := Function.update box.vertexMin i (box.vertexMax i - params.movDist) }
  else if (distToMapEdge box posLid i).2 ≤ params.nearEdge then
    some { box with vertexMax := Function.update box.vertexMax i (box.vertexMin i + params.movDist) }
  else none

theorem moveAxis_eq (newMap : BoxPointType α) (cubNeedrm : List (BoxPointType α)) (i : Fin 3) :
    moveAxis params box posLid (newMap, cubNeedrm) i =
      ({ vertexMin := Function.update newMap.vertexMin i (newMap.vertexMin i + shift params box posLid i)
         vertexMax := Function.update newMap.vertexMax i (newMap.vertexMax i + shift params box posLid i) },
        cubNeedrm ++ (leftBehind params box posLid i).toList) := by
  rw [moveAxis, shift, leftBehind]
  split
  next => simp [sub_eq_add_neg]
  next =>
    split
    next => simp
    next => simp

theorem moveAxes_eq {axes : List (Fin 3)} (distinct : axes.Nodup) (newMap : BoxPointType α)
    (cubNeedrm : List (BoxPointType α)) : axes.foldl (moveAxis params box posLid) (newMap, cubNeedrm) =
      ({ vertexMin := fun i => newMap.vertexMin i + if i ∈ axes then shift params box posLid i else 0
         vertexMax := fun i => newMap.vertexMax i + if i ∈ axes then shift params box posLid i else 0 },
        cubNeedrm ++ axes.filterMap (leftBehind params box posLid)) := by
  induction axes generalizing newMap cubNeedrm with
  | nil => simp
  | cons axis axes ih =>
    obtain ⟨absent, distinct⟩ := List.nodup_cons.mp distinct
    rw [List.foldl_cons, moveAxis_eq, ih distinct]
    refine Prod.ext (congrArg₂ BoxPointType.mk (funext fun i => ?_) (funext fun i => ?_)) ?_
    iterate 2
      by_cases same : i = axis
      · subst same
        simp [absent]
      · simp [same]
    · rw [List.append_assoc]
      cases left : leftBehind params box posLid axis with
      | none => rw [List.filterMap_cons_none left, Option.toList_none, List.nil_append]
      | some cub => rw [List.filterMap_cons_some left, Option.toList_some, List.singleton_append]

/-- What a call comes to once there is a map -/
theorem segment_eq (params : Parameters α) (box : BoxPointType α) (posLid : V3D α) :
    lasermapFovSegment params (some box) posLid =
      ({ vertexMin := fun i => box.vertexMin i + shift params box posLid i
         vertexMax := fun i => box.vertexMax i + shift params box posLid i },
        (List.finRange 3).filterMap (leftBehind params box posLid)) := by
  rw [lasermapFovSegment]
  split
  next =>
    rw [moveAxes_eq (List.nodup_finRange 3)]
    simp
  next far =>
    rw [not_exists] at far
    have apart i := not_or.mp (far i)
    have rests i : shift params box posLid i = 0 := by rw [shift, if_neg (apart i).1, if_neg (apart i).2]
    have none i : leftBehind params box posLid i = none := by rw [leftBehind, if_neg (apart i).1, if_neg (apart i).2]
    simp only [rests, add_zero]
    rw [List.filterMap_eq_nil_iff.mpr fun i _ => none i]

/-- The map is large enough to be moved: as the detection range is multiplied by one and
a half, its sides are three and a half of those ranges long. -/
def Roomy (params : Parameters α) : Prop := 0 < params.detRange ∧ 3.5 * params.detRange < params.cubeLen

/-- The lidar is farther from every face than the distance that the map is moved at. -/
structure Margins (params : Parameters α) (box : BoxPointType α) (posLid : V3D α) : Prop where
  size : ∀ i, box.vertexMax i - box.vertexMin i = params.cubeLen
  low : ∀ i, params.nearEdge < posLid i - box.vertexMin i
  high : ∀ i, params.nearEdge < box.vertexMax i - posLid i

/-- The lidar moves slowly enough between two calls. -/
def Slow (params : Parameters α) (first second : V3D α) : Prop :=
  ∀ i, |second i - first i| ≤ min params.nearEdge params.movDist

theorem movDist_lt (roomy : Roomy params) : params.movDist < params.cubeLen - 2 * params.nearEdge := by
  obtain ⟨positive, large⟩ := roomy
  rw [Parameters.movDist, Parameters.nearEdge, movThreshold]
  apply max_lt
  · norm_num at large ⊢
    linarith
  · norm_num at large ⊢
    linarith

theorem first_margins (roomy : Roomy params) (posLid : V3D α) :
    Margins params (lasermapFovSegment params none posLid).1 posLid := by
  obtain ⟨positive, large⟩ := roomy
  have half : params.nearEdge < params.cubeLen / 2 := by
    rw [Parameters.nearEdge, movThreshold]
    norm_num at large ⊢
    linarith
  refine ⟨fun i => ?_, fun i => ?_, fun i => ?_⟩
  · simp only [lasermapFovSegment]
    ring
  · simpa [lasermapFovSegment] using half
  · simpa [lasermapFovSegment] using half

theorem next_margins (roomy : Roomy params) (margins : Margins params box posLid) {next : V3D α}
    (slow : Slow params posLid next) : Margins params (lasermapFovSegment params (some box) next).1 next := by
  obtain ⟨size, low, high⟩ := margins
  have far := movDist_lt roomy
  rw [segment_eq]
  have each i : params.nearEdge < next i - (box.vertexMin i + shift params box next i) ∧
      params.nearEdge < box.vertexMax i + shift params box next i - next i := by
    have side := size i
    obtain ⟨edge, reach⟩ := le_min_iff.mp (slow i)
    obtain ⟨up, down⟩ := abs_le.mp edge
    obtain ⟨back, ahead⟩ := abs_le.mp reach
    have inMin : 0 ≤ next i - box.vertexMin i := by linarith [low i]
    have inMax : 0 ≤ box.vertexMax i - next i := by linarith [high i]
    rw [shift, distToMapEdge]
    dsimp only
    rw [abs_of_nonneg inMin, abs_sub_comm, abs_of_nonneg inMax]
    split
    next near => exact ⟨by linarith [low i], by linarith⟩
    next apart =>
      split
      next near => exact ⟨by linarith, by linarith [high i]⟩
      next beyond => exact ⟨by linarith [not_le.mp apart], by linarith [not_le.mp beyond]⟩
  refine ⟨fun i => ?_, fun i => (each i).1, fun i => (each i).2⟩
  rw [← size i]
  ring

variable {history : List (Entry (Option (BoxPointType α)) (V3D α) (BoxPointType α))} {state : Option (BoxPointType α)}

theorem after_step {before after : Option (BoxPointType α)} {outputs : List (BoxPointType α)}
    (taken : (localMap params).step before posLid = some (after, outputs)) :
    after = some (lasermapFovSegment params before posLid).1 ∧ outputs = (lasermapFovSegment params before posLid).2 := by
  obtain ⟨same, told⟩ := Prod.mk.inj (Option.some.inj taken)
  exact ⟨same.symm, told.symm⟩

/-- A map is there from the first call on. -/
theorem run_state (run : (localMap params).Run history state) :
    (history = [] → state = none) ∧ ∀ last ∈ history.getLast?, last.after = state := by
  cases run with
  | refl => exact ⟨fun _ => rfl, by simp⟩
  | snoc earlier taken => exact ⟨fun none => by simp at none, by simp⟩

/-- In a map that is large enough, a lidar that is slow enough keeps one and a half times
the detection range away from every face of the map, after every call. -/
theorem map_holds (roomy : Roomy params) (run : (localMap params).Run history state)
    (slow : history.IsChain fun first second => Slow params first.event second.event) :
    ∀ entry ∈ history, ∃ box, entry.after = some box ∧ Margins params box entry.event := by
  induction run with
  | refl => simp
  | @snoc before after history posLid outputs earlier taken ih =>
    have held := ih slow.left_of_append
    refine List.forall_mem_append.mpr ⟨held, List.forall_mem_singleton.mpr ?_⟩
    refine ⟨_, (after_step taken).1, ?_⟩
    obtain ⟨fresh, latest⟩ := run_state earlier
    rcases List.eq_nil_or_concat history with rfl | ⟨shorter, last, rfl⟩
    · rw [fresh rfl]
      exact first_margins roomy posLid
    · rw [List.concat_eq_append] at held latest slow
      obtain ⟨box, there, margins⟩ := held last List.mem_concat_self
      have now : before = some box := (latest last (by simp)).symm.trans there
      rw [now]
      apply next_margins roomy margins
      exact (List.isChain_append.mp slow).2.2 last (by simp) _ rfl

/-- As the node is configured for the Mid-360 -/
noncomputable def mid360Map : Parameters ℝ := ⟨100, 1000⟩

theorem map_holds_mid360 : ∃ history state, (localMap mid360Map).Run history state ∧
    history.map Entry.event = [fun _ => 0, fun _ => 100] ∧
    ∀ entry ∈ history, ∃ box, entry.after = some box ∧ ∀ i, mid360Map.nearEdge < box.vertexMax i - entry.event i := by
  have recorded : (localMap mid360Map).record (localMap mid360Map).initial [fun _ => 0, fun _ => 100] = some (_, _) := rfl
  have run := Machine.path_of_record recorded
  have roomy : Roomy mid360Map := by norm_num [Roomy, mid360Map]
  have slow : Slow mid360Map (fun _ => 0) fun _ => 100 := by
    norm_num [Slow, mid360Map, Parameters.nearEdge, Parameters.movDist, movThreshold]
  refine ⟨_, _, run, rfl, fun entry member => ?_⟩
  obtain ⟨box, there, margins⟩ := map_holds roomy run (List.isChain_pair.mpr slow) entry member
  exact ⟨box, there, margins.high⟩

/-! What falls out of the map -/

def InBox (box : BoxPointType α) (point : V3D α) : Prop :=
  ∀ i, box.vertexMin i ≤ point i ∧ point i ≤ box.vertexMax i

/-- A point is not on a face either. -/
def InsideBox (box : BoxPointType α) (point : V3D α) : Prop :=
  ∀ i, box.vertexMin i < point i ∧ point i < box.vertexMax i

theorem inBox_from {point : V3D α} (inside : InBox box point) {i : Fin 3} {low : α} (beyond : low ≤ point i) :
    InBox { box with vertexMin := Function.update box.vertexMin i low } point := by
  intro j
  dsimp only
  by_cases same : j = i
  · subst same
    rw [Function.update_self]
    exact ⟨beyond, (inside j).2⟩
  · rw [Function.update_of_ne same]
    exact inside j

theorem inBox_until {point : V3D α} (inside : InBox box point) {i : Fin 3} {high : α} (before : point i ≤ high) :
    InBox { box with vertexMax := Function.update box.vertexMax i high } point := by
  intro j
  dsimp only
  by_cases same : j = i
  · subst same
    rw [Function.update_self]
    exact ⟨(inside j).1, before⟩
  · rw [Function.update_of_ne same]
    exact inside j

theorem movDist_nonneg (ranging : 0 ≤ params.detRange) : 0 ≤ params.movDist := by
  rw [Parameters.movDist, movThreshold]
  apply le_max_of_le_right
  apply mul_nonneg ranging
  norm_num

/-- A point that a move leaves out of the box lies in what is deleted for an axis. -/
theorem left_deleted {point : V3D α} (ranging : 0 ≤ params.detRange) (inside : InBox box point)
    (left : ¬ InBox (lasermapFovSegment params (some box) posLid).1 point) :
    ∃ cub ∈ (lasermapFovSegment params (some box) posLid).2, InBox cub point := by
  rw [segment_eq] at left ⊢
  have forward := movDist_nonneg ranging
  obtain ⟨i, out⟩ := not_forall.mp left
  have here := inside i
  have gone : ∃ cub, leftBehind params box posLid i = some cub ∧ InBox cub point := by
    rw [leftBehind]
    dsimp only [shift] at out
    split at out
    next near =>
      have beyond : box.vertexMax i - params.movDist ≤ point i := by
        by_contra before
        exact out ⟨by linarith, by linarith⟩
      rw [if_pos near]
      exact ⟨_, rfl, inBox_from inside beyond⟩
    next apart =>
      rw [if_neg apart]
      split at out
      next near =>
        have before : point i ≤ box.vertexMin i + params.movDist := by
          by_contra beyond
          exact out ⟨by linarith, by linarith⟩
        rw [if_pos near]
        exact ⟨_, rfl, inBox_until inside before⟩
      next => exact absurd ⟨by linarith, by linarith⟩ out
  obtain ⟨cub, behind, held⟩ := gone
  exact ⟨cub, List.mem_filterMap.mpr ⟨i, List.mem_finRange i, behind⟩, held⟩

/-- What is deleted for an axis lies outside of the box as it has moved. -/
theorem deleted_left {point : V3D α} {cub : BoxPointType α}
    (deleted : cub ∈ (lasermapFovSegment params (some box) posLid).2) (held : InBox cub point) :
    ¬ InsideBox (lasermapFovSegment params (some box) posLid).1 point := by
  rw [segment_eq] at deleted ⊢
  obtain ⟨i, _, behind⟩ := List.mem_filterMap.mp deleted
  intro inside
  have here := inside i
  have there := held i
  rw [leftBehind] at behind
  dsimp only [shift] at here
  split at behind
  next near =>
    rw [if_pos near] at here
    obtain rfl := Option.some.inj behind
    simp only [Function.update_self] at there
    linarith
  next apart =>
    rw [if_neg apart] at here
    split at behind
    next near =>
      rw [if_pos near] at here
      obtain rfl := Option.some.inj behind
      simp only [Function.update_self] at there
      linarith
    next => cases behind

theorem path_some {path : List (Entry (Option (BoxPointType α)) (V3D α) (BoxPointType α))} {first : BoxPointType α}
    (through : (localMap params).Path (some first) path state) : ∃ box, state = some box := by
  cases through with
  | refl => exact ⟨first, rfl⟩
  | snoc _ taken => exact ⟨_, (after_step taken).1⟩

/-- A point that was in the map and no longer is lies in a box that was deleted in
between, and no call deletes what lies inside the map that it leaves. -/
theorem leaving_deleted {between : List (Entry (Option (BoxPointType α)) (V3D α) (BoxPointType α))}
    {first second : BoxPointType α} (ranging : 0 ≤ params.detRange)
    (path : (localMap params).Path (some first) between (some second)) :
    (∀ point, InBox first point → ¬ InBox second point → ∃ entry ∈ between, ∃ cub ∈ entry.outputs, InBox cub point) ∧
      ∀ entry ∈ between, ∃ box, entry.after = some box ∧ ∀ cub ∈ entry.outputs, ∀ point, InBox cub point →
        ¬ InsideBox box point := by
  constructor
  · intro point inside left
    let without (state : Option (BoxPointType α)) : Prop := ∃ box, state = some box ∧ ¬ InBox box point
    have absent : ¬ without (some first) := by
      rintro ⟨box, same, out⟩
      obtain rfl := Option.some.inj same
      exact out inside
    obtain ⟨past, entry, future, rfl, held, box, now, out⟩ := path.origin without absent ⟨second, rfl, left⟩
    obtain ⟨earlier, taken, _⟩ := path.entry
    obtain ⟨before, there⟩ := path_some earlier
    have kept : InBox before point := by
      by_contra missing
      exact held ⟨before, there, missing⟩
    obtain ⟨same, told⟩ := after_step taken
    rw [there] at same told
    obtain rfl := Option.some.inj (now.symm.trans same)
    refine ⟨entry, by simp, ?_⟩
    rw [told]
    exact left_deleted ranging kept out
  · intro entry member
    obtain ⟨_, _, rfl, earlier, taken, _⟩ := path.mem member
    obtain ⟨before, there⟩ := path_some earlier
    obtain ⟨same, told⟩ := after_step taken
    rw [there] at same told
    refine ⟨_, same, fun cub deleted point held => ?_⟩
    rw [told] at deleted
    exact deleted_left deleted held

/-- A map whose lidar comes near to a face, and a point at the other side of it -/
noncomputable def nearFace : BoxPointType ℝ := ⟨fun _ => 0, fun _ => 1000⟩

theorem leaving_deleted_near : ∃ between second, (localMap mid360Map).Path (some nearFace) between (some second) ∧
    ∃ entry ∈ between, ∃ cub ∈ entry.outputs, InBox cub fun _ => 1000 := by
  have recorded : (localMap mid360Map).record (some nearFace) [fun _ => 100] = some (_, some _) := rfl
  have path := Machine.path_of_record recorded
  refine ⟨_, _, path, (leaving_deleted (by norm_num [mid360Map]) path).1 (fun _ => 1000) ?_ fun inside => ?_⟩
  · norm_num [InBox, nearFace]
  · have high := (inside 0).2
    rw [segment_eq] at high
    norm_num [shift, distToMapEdge, nearFace, mid360Map, Parameters.nearEdge, Parameters.movDist, movThreshold] at high

/-! A lidar that rests -/

theorem first_edge (params : Parameters α) (size : 0 ≤ params.cubeLen) (posLid : V3D α) (i : Fin 3) :
    distToMapEdge (lasermapFovSegment params none posLid).1 posLid i = (params.cubeLen / 2, params.cubeLen / 2) := by
  have half : 0 ≤ params.cubeLen / 2 := by linarith
  simp [distToMapEdge, lasermapFovSegment, abs_of_nonneg half]

/-- A call for the position that the map was begun at -/
theorem second_outputs (size : 0 ≤ params.cubeLen) (posLid : V3D α) :
    (lasermapFovSegment params (some (lasermapFovSegment params none posLid).1) posLid).2 = [] ↔
      3 * params.detRange < params.cubeLen := by
  have edges : params.cubeLen / 2 ≤ params.nearEdge ↔ params.cubeLen ≤ 3 * params.detRange := by
    rw [Parameters.nearEdge, movThreshold]
    constructor
    · intro near
      norm_num at near
      linarith
    · intro short
      norm_num
      linarith
  rw [segment_eq, List.filterMap_eq_nil_iff, ← not_le, ← edges]
  constructor
  · intro none near
    have left := none 0 (List.mem_finRange 0)
    rw [leftBehind, first_edge params size, if_pos near] at left
    cases left
  · intro far i _
    rw [leftBehind, first_edge params size, if_neg far, if_neg far]

/-- Where nothing is deleted the map stays. -/
theorem segment_stays (silent : (lasermapFovSegment params (some box) posLid).2 = []) :
    (lasermapFovSegment params (some box) posLid).1 = box := by
  rw [segment_eq, List.filterMap_eq_nil_iff] at silent
  have rests i : shift params box posLid i = 0 := by
    have none := silent i (List.mem_finRange i)
    rw [leftBehind] at none
    rw [shift]
    split at none
    next => cases none
    next apart =>
      split at none
      next => cases none
      next beyond => rw [if_neg apart, if_neg beyond]
  simp [segment_eq, rests]

/-- The map of a lidar that rests never moves exactly if its sides are longer than three
detection ranges. Else a part of it is deleted by the second call already. -/
theorem resting_map (size : 0 ≤ params.cubeLen) (run : (localMap params).Run history state)
    (rests : ∀ entry ∈ history, entry.event = posLid) (several : 2 ≤ history.length) :
    (∀ entry ∈ history, entry.outputs = []) ↔ 3 * params.detRange < params.cubeLen := by
  rw [← second_outputs size posLid]
  constructor
  · intro silent
    rcases history with _ | ⟨first, _ | ⟨second, rest⟩⟩
    · cases several
    · simp at several
    · have whole : (localMap params).Path (localMap params).initial ([] ++ first :: second :: rest) state := run
      obtain ⟨earlier, taken, later⟩ := whole.entry
      have after : (localMap params).Path first.after ([] ++ second :: rest) state := later
      obtain ⟨meantime, again, _⟩ := after.entry
      have told := (after_step again).2
      rw [meantime.stays, (after_step taken).1, earlier.stays, rests first (by simp), rests second (by simp),
        silent second (by simp)] at told
      exact told.symm
  · intro silent
    let held (state : Option (BoxPointType α)) : Prop := state = none ∨ state = some (lasermapFovSegment params none posLid).1
    have step {entry : Entry (Option (BoxPointType α)) (V3D α) (BoxPointType α)} (member : entry ∈ history)
        (taken : (localMap params).step entry.before entry.event = some (entry.after, entry.outputs))
        (before : held entry.before) : held entry.after ∧ entry.outputs = [] := by
      obtain ⟨same, told⟩ := after_step taken
      rw [rests entry member] at same told
      rcases before with none | begun
      · rw [none] at same told
        exact ⟨.inr same, told⟩
      · rw [begun] at same told
        exact ⟨.inr (same.trans (congrArg some (segment_stays silent))), told.trans silent⟩
    intro entry member
    obtain ⟨past, future, rfl, earlier, taken, _⟩ := run.mem member
    have reached : held entry.before := earlier.invariant held (.inl rfl) fun other among taken before =>
      (step (List.mem_append_left _ among) taken before).1
    exact (step member taken reached).2

/-- As the node is configured for the Avia -/
noncomputable def aviaMap : Parameters ℝ := ⟨450, 1000⟩

theorem resting_map_avia : ∃ history state, (localMap aviaMap).Run history state ∧
    (∀ entry ∈ history, entry.event = fun _ => 0) ∧ ¬ ∀ entry ∈ history, entry.outputs = [] := by
  obtain ⟨history, state, run, rests, several⟩ : ∃ history state, (localMap aviaMap).Run history state ∧
      (∀ entry ∈ history, entry.event = fun _ => 0) ∧ 2 ≤ history.length := by
    have recorded : (localMap aviaMap).record (localMap aviaMap).initial [fun _ => 0, fun _ => 0] = some (_, _) := rfl
    exact ⟨_, _, Machine.path_of_record recorded, by simp, le_rfl⟩
  refine ⟨history, state, run, rests, (resting_map (by norm_num [aviaMap]) run rests several).not.mpr ?_⟩
  norm_num [aviaMap]

end FlightStack.Proofs
