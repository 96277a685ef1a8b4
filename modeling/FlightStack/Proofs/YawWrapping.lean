import FlightStack.Hover
import FlightStack.Library.WhileLoop

/-! How a difference of headings is wrapped. Two loops bring it within half a turn;
the hover check makes do with one round of each. -/

namespace FlightStack.Proofs
open BaseController HoverController
variable {α ι : Type} [Arithmetic α]

theorem wrapDown_loop (diff : α) : ∃ rounds, Loop (pi < ·) (· - 2 * pi) diff rounds (wrapDown diff) := by
  fun_induction wrapDown diff with
  | case1 diff large ih =>
    obtain ⟨rounds, loop⟩ := ih
    exact ⟨rounds + 1, .round large loop⟩
  | case2 diff within => exact ⟨0, .stop within⟩

theorem wrapUp_loop (diff : α) : ∃ rounds, Loop (· < -pi) (· + 2 * pi) diff rounds (wrapUp diff) := by
  fun_induction wrapUp diff with
  | case1 diff small ih =>
    obtain ⟨rounds, loop⟩ := ih
    exact ⟨rounds + 1, .round small loop⟩
  | case2 diff within => exact ⟨0, .stop within⟩

theorem sub_turn (diff : α) : diff - 2 * pi ≡ diff [PMOD 2 * pi] :=
  AddCommGroup.modEq_iff_zsmul'.mpr ⟨1, by rw [one_zsmul, sub_sub_cancel]⟩

theorem add_turn (diff : α) : diff + 2 * pi ≡ diff [PMOD 2 * pi] :=
  AddCommGroup.modEq_iff_zsmul'.mpr ⟨-1, by rw [neg_one_zsmul, sub_add_cancel_left]⟩

theorem wrapDown_eq {diff : α} (high : diff ≤ pi) : wrapDown diff = diff := by
  rw [wrapDown, if_neg (not_lt.mpr high)]

theorem wrapUp_eq {diff : α} (low : -pi ≤ diff) : wrapUp diff = diff := by
  rw [wrapUp, if_neg (not_lt.mpr low)]

/-- The first loop does not go so far that the second has something to do. -/
theorem lt_wrapDown {diff : α} (low : -pi < diff) : -pi < wrapDown diff := by
  obtain ⟨_, loop⟩ := wrapDown_loop diff
  apply loop.invariant (-pi < ·) _ low
  intro state large _
  linarith

/-- The second loop does not undo the first. -/
theorem wrapUp_le {diff : α} (high : diff ≤ pi) : wrapUp diff ≤ pi := by
  obtain ⟨_, loop⟩ := wrapUp_loop diff
  apply loop.invariant (· ≤ pi) _ high
  intro state small _
  linarith

/-- The second loop is the first one in the mirror. -/
theorem wrapUp_neg (diff : α) : wrapUp (-diff) = -wrapDown diff := by
  obtain ⟨_, down⟩ := wrapDown_loop diff
  obtain ⟨_, up⟩ := wrapUp_loop (-diff)
  apply (up.unique (down.seen Neg.neg _ _)).2
  · intro state
    exact neg_lt_neg_iff
  · intro state
    ring

/-- Both loops, as they stand in `shortest_angular_distance` and in the segment follower. -/
def wrapped (diff : α) : α := wrapUp (wrapDown diff)

theorem abs_wrapped_le (diff : α) : |wrapped diff| ≤ pi := by
  obtain ⟨_, down⟩ := wrapDown_loop diff
  obtain ⟨_, up⟩ := wrapUp_loop (wrapDown diff)
  exact abs_le.mpr ⟨not_lt.mp up.exit, wrapUp_le (not_lt.mp down.exit)⟩

theorem wrapped_congruent (diff : α) : wrapped diff ≡ diff [PMOD 2 * pi] := by
  obtain ⟨_, down⟩ := wrapDown_loop diff
  obtain ⟨_, up⟩ := wrapUp_loop (wrapDown diff)
  exact (up.congruent add_turn).trans (down.congruent sub_turn)

theorem wrapped_neg (diff : α) : wrapped (-diff) = -wrapped diff := by
  have positive : (0 : α) < pi := Arithmetic.pi_pos
  have beyond {diff : α} (large : pi < diff) : wrapped (-diff) = -wrapped diff := by
    have above : -pi < wrapDown diff := lt_wrapDown (by linarith)
    rw [wrapped, wrapDown_eq (by linarith), wrapUp_neg, wrapped, wrapUp_eq above.le]
  rcases lt_or_ge pi diff with large | high
  · exact beyond large
  rcases lt_or_ge diff (-pi) with small | low
  · have mirrored := beyond (lt_neg_of_lt_neg small)
    rw [neg_neg] at mirrored
    rw [mirrored, neg_neg]
  · rw [wrapped, wrapDown_eq (by linarith), wrapUp_eq (by linarith), wrapped, wrapDown_eq high, wrapUp_eq low]

/-- Of all angles with the same direction, one of at most half a turn is the smallest. -/
theorem least_of_abs_le {least angle : α} (half : |least| ≤ pi) (same : angle ≡ least [PMOD 2 * pi]) :
    |least| ≤ |angle| := by
  apply abs_le_of_modEq _ same
  exact (add_le_add half half).trans (two_mul pi).ge

theorem wrapped_least {diff angle : α} (same : angle ≡ diff [PMOD 2 * pi]) : |wrapped diff| ≤ |angle| := by
  apply least_of_abs_le (abs_wrapped_le diff)
  exact same.trans (wrapped_congruent diff).symm

/-- Both loops end, and they leave the smallest angle that has the same direction. -/
theorem shortest_angle (start goal : α) :
    (∃ down middle up, Loop (pi < ·) (· - 2 * pi) (goal - start) down middle ∧
      Loop (· < -pi) (· + 2 * pi) middle up (shortestAngularDistance start goal)) ∧
    -pi ≤ shortestAngularDistance start goal ∧ shortestAngularDistance start goal ≤ pi ∧
    (∃ turns : Int, shortestAngularDistance start goal - (goal - start) = turns * (2 * pi)) ∧
    (∀ angle : α, (∃ turns : Int, angle - (goal - start) = turns * (2 * pi)) →
      |shortestAngularDistance start goal| ≤ |angle|) ∧
    shortestAngularDistance goal start = -shortestAngularDistance start goal := by
  have turned {angle : α} : angle ≡ goal - start [PMOD 2 * pi] ↔
      ∃ turns : Int, angle - (goal - start) = turns * (2 * pi) := by
    rw [AddCommGroup.modEq_comm, AddCommGroup.modEq_iff_zsmul']
    simp only [zsmul_eq_mul]
  obtain ⟨low, high⟩ := abs_le.mp (abs_wrapped_le (goal - start))
  refine ⟨?_, low, high, turned.mp (wrapped_congruent _), ?_, ?_⟩
  · obtain ⟨down, first⟩ := wrapDown_loop (goal - start)
    obtain ⟨up, second⟩ := wrapUp_loop (wrapDown (goal - start))
    exact ⟨down, _, up, first, second⟩
  · intro angle same
    exact wrapped_least (turned.mpr same)
  · have mirrored := wrapped_neg (goal - start)
    rwa [neg_sub] at mirrored

/-! One round of each -/

/-- What the hover check does to the difference. -/
def wrapOnce (diff : α) : α :=
  let once := if pi < diff then diff - 2 * pi else diff
  if once < -pi then once + 2 * pi else once

def positionError (node : HoverController α ι) : α :=
  distanceToTarget node.localPosition.position node.hoverConfig.x node.hoverConfig.y node.hoverConfig.z

theorem reached_iff {node : HoverController α ι} : node.checkHoverPositionReached = true ↔
    positionError node < node.hoverConfig.positionTolerance ∧
      |wrapOnce (node.currentYaw - node.hoverConfig.yaw)| < node.hoverConfig.yawTolerance :=
  (Bool.and_eq_true_iff ..).trans (and_congr decide_eq_true_iff decide_eq_true_iff)

theorem wrapOnce_congruent (diff : α) : wrapOnce diff ≡ diff [PMOD 2 * pi] := by
  have first : (if pi < diff then diff - 2 * pi else diff) ≡ diff [PMOD 2 * pi] := by
    split
    · exact sub_turn diff
    · exact AddCommGroup.modEq_rfl
  unfold wrapOnce
  generalize (if pi < diff then diff - 2 * pi else diff) = once at first ⊢
  dsimp only
  split
  · exact (add_turn once).trans first
  · exact first

theorem abs_wrapOnce_le_iff (diff : α) : |wrapOnce diff| ≤ pi ↔ |diff| ≤ 3 * pi := by
  have positive : (0 : α) < pi := Arithmetic.pi_pos
  unfold wrapOnce
  rw [abs_le, abs_le]
  rcases lt_or_ge pi diff with large | high
  · simp only [if_pos large, if_neg (show ¬ diff - 2 * pi < -pi by linarith)]
    constructor <;> intro bounds <;> constructor <;> linarith
  rcases lt_or_ge diff (-pi) with small | low
  · simp only [if_neg high.not_gt, if_pos small]
    constructor <;> intro bounds <;> constructor <;> linarith
  · simp only [if_neg high.not_gt, if_neg low.not_gt]
    constructor <;> intro bounds <;> constructor <;> linarith

/-- One round is enough for differences of up to three half turns. -/
theorem abs_wrapOnce_eq_iff (diff : α) : |wrapOnce diff| = |wrapped diff| ↔ |diff| ≤ 3 * pi := by
  rw [← abs_wrapOnce_le_iff]
  constructor
  · intro same
    exact same.trans_le (abs_wrapped_le diff)
  · intro within
    apply le_antisymm _ (wrapped_least (wrapOnce_congruent diff))
    apply least_of_abs_le within
    exact (wrapped_congruent diff).trans (wrapOnce_congruent diff).symm

end FlightStack.Proofs
