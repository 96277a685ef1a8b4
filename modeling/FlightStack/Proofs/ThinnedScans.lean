import FlightStack.Preprocess

/-! The loop of `avia_handler` takes every so many valid points of a message that are
not too near. That a point could repeat the one before it plays no part. -/

namespace FlightStack.Proofs
open Preprocess

/-- The rows at the multiples of a number, counted from one -/
def everyNth {β : Type} (count : Nat) (rows : List β) : List β :=
  ((rows.zipIdx 1).filter fun row => row.2 % count = 0).map Prod.fst

theorem everyNth_concat {β : Type} (count : Nat) (rows : List β) (row : β) :
    everyNth count (rows ++ [row]) = everyNth count rows ++ if (rows.length + 1) % count = 0 then [row] else [] := by
  simp only [everyNth, List.zipIdx_append, List.filter_append, List.map_append, List.zipIdx_singleton, List.filter_singleton]
  rw [Nat.add_comm 1]
  split <;> simp_all

variable {α : Type} {pre : Preprocess α} {points : List (Lddc.CustomPoint α)}

/-- The valid ones of the points that the loop has been at -/
def validPassed (pre : Preprocess α) (points : List (Lddc.CustomPoint α)) (rounds : Nat) : List (Lddc.CustomPoint α) :=
  (points.tail.take rounds).filter pre.isValid

theorem validPassed_succ (rounds : Nat) :
    validPassed pre points (rounds + 1) = validPassed pre points rounds ++ (points[rounds + 1]?.filter pre.isValid).toList := by
  rw [validPassed, validPassed, List.take_add_one, List.filter_append, List.getElem?_tail]
  cases points[rounds + 1]? with
  | none => rfl
  | some point => cases valid : pre.isValid point <;> simp [Option.filter, valid]

variable [Arithmetic α]

def surface (pre : Preprocess α) (valid : List (Lddc.CustomPoint α)) : List (PointXYZINormal α) :=
  ((everyNth pre.pointFilterNum valid).map fullPoint).filter fun point => pre.outsideBlind point.toPoint

/-- What the loop has after its first rounds. Where a point was written, the count of
the valid ones is at a multiple. -/
structure Gathered (pre : Preprocess α) (points : List (Lddc.CustomPoint α)) (rounds : Nat) (loop : AviaLoop α) : Prop where
  count : loop.validNum = (validPassed pre points rounds).length
  surf : loop.plSurf = surface pre (validPassed pre points rounds)
  ahead : ∀ i, rounds < i → loop.plFull i = unset
  written : loop.plFull rounds = unset ∨ loop.validNum % pre.pointFilterNum = 0

theorem apart_unset {point : Point α} (blind : 3 * (1e-7 * 1e-7) ≤ pre.blind * pre.blind) (outside : pre.outsideBlind point) :
    apart point unset.toPoint := by
  by_contra near
  simp only [apart, unset, sub_zero, Bool.or_eq_true, decide_eq_true_iff, not_or, not_lt] at near
  obtain ⟨⟨x, y⟩, z⟩ := near
  have far : pre.blind * pre.blind < point.x * point.x + point.y * point.y + point.z * point.z := of_decide_eq_true outside
  have square {value : α} (small : |value| ≤ 1e-7) : value * value ≤ 1e-7 * 1e-7 := by
    rw [← abs_mul_abs_self]
    exact mul_self_le_mul_self (abs_nonneg value) small
  linarith [square x, square y, square z]

theorem aviaRound_gathered (several : 2 ≤ pre.pointFilterNum) (blind : 3 * (1e-7 * 1e-7) ≤ pre.blind * pre.blind)
    {rounds : Nat} {loop : AviaLoop α} (gathered : Gathered pre points rounds loop) :
    Gathered pre points (rounds + 1) (pre.aviaRound points loop (rounds + 1)) := by
  obtain ⟨count, surf, ahead, written⟩ := gathered
  have further i (later : rounds + 1 < i) : loop.plFull i = unset := ahead i (Nat.lt_of_succ_lt later)
  have next : loop.plFull (rounds + 1) = unset := ahead _ (Nat.lt_succ_self _)
  fun_cases aviaRound pre points loop (rounds + 1) with
  | case1 absent =>
    have same : validPassed pre points (rounds + 1) = validPassed pre points rounds := by simp [validPassed_succ, absent]
    exact ⟨same ▸ count, same ▸ surf, further, .inl next⟩
  | case2 point present valid turn full =>
    have more : validPassed pre points (rounds + 1) = validPassed pre points rounds ++ [point] := by
      simp [validPassed_succ, present, Option.filter, valid]
    -- the point before this one was not written: the count was not at a multiple
    have before : loop.plFull rounds = unset := by
      refine written.resolve_right fun multiple => ?_
      have one : pre.pointFilterNum ∣ 1 := (Nat.dvd_add_right (Nat.dvd_of_mod_eq_zero multiple)).mp (Nat.dvd_of_mod_eq_zero turn)
      have small := Nat.le_of_dvd Nat.one_pos one
      omega
    refine ⟨by rw [more, List.length_append, count]; rfl, ?_, ?_, .inr turn⟩
    · rw [more, surface, everyNth_concat, ← count, if_pos turn, List.map_append, List.filter_append, ← surface, ← surf,
        Nat.add_sub_cancel, before]
      by_cases outside : pre.outsideBlind full.toPoint
      · have away : apart full.toPoint unset.toPoint = true := apart_unset blind outside
        simp [away, outside, full]
      · simp [outside, full]
    · intro i later
      exact (Function.update_of_ne (Nat.ne_of_gt later) ..).trans (further i later)
  | case3 point present valid between =>
    have more : validPassed pre points (rounds + 1) = validPassed pre points rounds ++ [point] := by
      simp [validPassed_succ, present, Option.filter, valid]
    refine ⟨by rw [more, List.length_append, count]; rfl, ?_, further, .inl next⟩
    rw [more, surface, everyNth_concat, ← count, if_neg between, List.append_nil, ← surface]
    exact surf
  | case4 point present invalid =>
    have same : validPassed pre points (rounds + 1) = validPassed pre points rounds := by
      simp [validPassed_succ, present, Option.filter, invalid]
    exact ⟨same ▸ count, same ▸ surf, further, .inl next⟩

/-- Where at least every second valid point is left out and the blind zone has all that is
within the tolerance along each axis, the scan of a message has every so many of its valid
points after the first point, in their order, as far as they are outside of the blind zone. -/
theorem scans_thinned (msg : Lddc.CustomMsg α) (plain : pre.featureEnabled = false) (several : 2 ≤ pre.pointFilterNum)
    (blind : 3 * (1e-7 * 1e-7) ≤ pre.blind * pre.blind) :
    pre.aviaHandler msg = ((everyNth pre.pointFilterNum ((msg.points.take msg.pointNum.toNat).tail.filter pre.isValid)).map
      fullPoint).filter fun point => pre.outsideBlind point.toPoint := by
  have rounds (count : Nat) : Gathered pre msg.points count
      ((List.range' 1 count).foldl (pre.aviaRound msg.points) { plFull := fun _ => unset }) := by
    induction count with
    | zero => exact ⟨rfl, rfl, fun _ _ => rfl, .inl rfl⟩
    | succ count ih =>
      rw [List.range'_1_concat, List.foldl_append, Nat.add_comm 1]
      exact aviaRound_gathered several blind ih
  have tail : (msg.points.take msg.pointNum.toNat).tail = msg.points.tail.take (msg.pointNum.toNat - 1) := by
    rw [← List.drop_one, ← List.drop_one, List.drop_take]
  rw [aviaHandler, plain, if_neg Bool.false_ne_true, (rounds _).surf, surface, validPassed, tail]

/-- As the node is configured for the Mid-360 -/
noncomputable def mid360 : Preprocess ℝ := ⟨4, 1, 3, false, id⟩

/-- A point two metres ahead, and a message with four of them -/
noncomputable def ahead : Lddc.CustomPoint ℝ := ⟨⟨2, 0, 0, 9⟩, 1000, 0, 0⟩

noncomputable def fourPoints : Lddc.CustomMsg ℝ := ⟨"livox_frame", 0, 0, 4, 7, [ahead, ahead, ahead, ahead]⟩

theorem scans_thinned_four : mid360.aviaHandler fourPoints = [fullPoint ahead] := by
  rw [scans_thinned fourPoints rfl (by decide) (by norm_num [mid360])]
  have valid : mid360.isValid ahead = true := rfl
  have thinned : everyNth mid360.pointFilterNum
      ((fourPoints.points.take fourPoints.pointNum.toNat).tail.filter mid360.isValid) = [ahead] := rfl
  rw [thinned, List.map_singleton, List.filter_singleton]
  simp [outsideBlind, mid360, fullPoint, ahead]
  norm_num

end FlightStack.Proofs
