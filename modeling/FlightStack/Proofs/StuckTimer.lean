import FlightStack.Proofs.NominalFlight

/-! When the stuck detection reads its reference time before anything has set it.
The subtraction throws, and nothing else ever does. -/

namespace FlightStack.Proofs
open BaseController TaskController OffbNode

section Faults
variable {α : Type} [Arithmetic α] {config : Config α}

theorem check_throws (threshold : α) (reading : Int) (position : Position α) {stuck : StuckDetection α}
    (still : positionChange position stuck ≤ threshold) (unset : stuck.lastPositionTime = {}) :
    checkPositionStuckProtection threshold (.now reading) position stuck = .error (.subtract (.now reading) {}) := by
  have thrown : trackMovement threshold (.now reading) position stuck = .error (.subtract (.now reading) {}) := by
    apply (if_neg (not_lt.mpr still)).trans
    rw [unset]
    rfl
  rw [checkPositionStuckProtection, thrown]
  rfl

theorem ReadsUnset.throws {services : Services} {node : TaskController α} (reads : ReadsUnset config services node)
    (readings : Readings) :
    (timerCallback config services readings node).fault = some (.subtract (.now readings.stuck) {}) := by
  obtain ⟨sent, flown, check, flight, ran⟩ := tick_flies config services readings node reads.ready
  obtain ⟨position, index, stuck, _⟩ := check.frame
  have thrown := check_throws config.waypointThreshold readings.stuck node.localPosition.position reads.still reads.unset
  have left := index ▸ reads.unfinished
  rw [← position, ← stuck] at thrown
  rw [ran]
  cases flight with
  | fault fault state unfinished failed =>
    rw [executeWaypointMission, if_neg (Nat.not_le.mpr left), waypointAt_eq config left] at failed
    change (checkPositionStuckProtection config.waypointThreshold (.now readings.stuck)
      (checked config services node).localPosition.position (checked config services node).stuck >>= _) = _ at failed
    rw [thrown] at failed
    exact congrArg some (Except.error.inj failed).symm
  | steer state steered | arrive state steered =>
    rw [steered.guarded] at thrown
    cases thrown
  | finished state done => exact absurd left (Nat.not_lt.mpr done)
  | hold state | climb state | tilt state | touch state | descend state | disarm state | disarmed state
  | approach state => rw [reads.flying] at state; cases state

/-- In a run, the steps that end the node are the ticks that read the unset time. -/
theorem fault_iff {history : History α} {world after : World α} {event : Event α} {outputs : List (Output α)}
    (run : (offbNode config).Run history world)
    (taken : (offbNode config).step world event = some (after, outputs)) :
    after.fault ≠ none ↔
      ∃ services readings, event = .tick services readings ∧ ReadsUnset config services world.node := by
  obtain ⟨alive, stepped⟩ := stepped_cases taken
  constructor
  · intro faulted
    cases stepped with
    | response | message => exact absurd rfl faulted
    | tick services readings ran ticked =>
      refine ⟨services, readings, rfl, ?_⟩
      by_contra unread
      exact faulted (tick_safe (timed run alive) ticked unread)
  · intro ticks
    obtain ⟨services, readings, rfl, reads⟩ := ticks
    rw [step_tick config services readings alive] at taken
    cases taken
    rw [reads.throws readings]
    exact Option.some_ne_none _

theorem never_faults_iff (config : Config α) :
    (∀ history world, (offbNode config).Run history world → world.fault = none) ↔
      ∀ history world, (offbNode config).Run history world → ∀ entry ∈ history, ∀ services readings,
        entry.event = .tick services readings → ¬ ReadsUnset config services entry.before.node := by
  constructor
  · intro alive history world run entry member services readings tick reads
    obtain ⟨past, future, _, reached, taken, _⟩ := run.mem member
    apply (fault_iff reached taken).mpr ⟨services, readings, tick, reads⟩
    exact alive _ _ (reached.snoc taken)
  · intro unread history world run
    cases run with
    | refl => rfl
    | snoc earlier taken =>
      by_contra faulted
      obtain ⟨services, readings, tick, reads⟩ := (fault_iff earlier taken).mp faulted
      exact unread _ _ (earlier.snoc taken) _ List.mem_concat_self services readings tick reads

end Faults

section Region
variable (angular : ℝ) {height threshold : ℝ} (start : Int) (getRPY : Quaternion ℝ → ℝ × ℝ × ℝ)

private theorem low_climb (positive : 0 < height) (low : height < 2.5) (close : height ≤ 2 * threshold) :
    ∃ history world, (offbNode (construct angular height threshold start getRPY)).Run history world ∧
      world.fault = none ∧ ReadsUnset (construct angular height threshold start getRPY) served world.node := by
  obtain ⟨ground, flying, first, initial⟩ := takes_off (construct angular height threshold start getRPY)
  obtain ⟨world, flying, halfway, index, stuck⟩ := flying.move ⟨0, 0, height / 2⟩
  obtain ⟨history, run⟩ := flying.reachable
  have half : |height / 2| = height / 2 := abs_of_pos (half_pos positive)
  have inside : Inside world.node.localPosition.position := by
    rw [halfway]
    refine ⟨by norm_num, by norm_num, ?_⟩
    rw [half]
    linarith
  have level : |world.node.localPosition.position.z - height| ≤ threshold := by
    rw [halfway, abs_sub_comm, sub_half, half]
    linarith
  refine ⟨history, world, run, flying.alive, flying.ready, ?_, ?_, ?_, ?_⟩
  · rw [checked_climb _ _ _ inside flying.state level]
  · rw [index, first]
    exact Nat.zero_lt_succ 2
  · rw [halfway, stuck, initial]
    have change : positionChange ⟨0, 0, height / 2⟩ .initial = height / 2 := by
      simp only [positionChange, StuckDetection.initial, sub_zero]
      apply Eq.trans _ (Real.sqrt_sq (half_pos positive).le)
      simp [sqrt]
    rw [change]
    simp only [construct]
    linarith
  · rw [stuck, initial]
    rfl

private theorem unread_iff (positive : 0 < height) (low : height < 2.5) :
    (∀ history world, (offbNode (construct angular height threshold start getRPY)).Run history world →
      ∀ entry ∈ history, ∀ services readings, entry.event = .tick services readings →
        ¬ ReadsUnset (construct angular height threshold start getRPY) services entry.before.node) ↔
      2 * threshold < height := by
  constructor
  · intro safe
    by_contra close
    obtain ⟨history, world, run, alive, reads⟩ := low_climb angular start getRPY positive low (not_lt.mp close)
    have taken := step_tick (construct angular height threshold start getRPY) served calm alive
    exact safe _ _ (run.snoc taken) _ List.mem_concat_self served calm rfl reads
  · intro clear history world run entry member services readings tick reads
    obtain ⟨past, future, _, reached, taken, _⟩ := run.mem member
    obtain ⟨_, _, level, initial⟩ := (timed reached (stepped_cases taken).1).climbing reads
    have still := (height_le_change entry.before.node.localPosition.position).trans (initial ▸ reads.still)
    have above := (abs_le.mp level).1
    have bounded := le_abs_self entry.before.node.localPosition.position.z
    simp only [construct] at above still
    linarith

/-- The exact region of the parameters in which no run reads the unset time, and so
none ends in the exception. -/
theorem stuck_timer (positive : 0 < height) (low : height < 2.5) :
    ((∀ history world, (offbNode (construct angular height threshold start getRPY)).Run history world →
      ∀ entry ∈ history, ∀ services readings, entry.event = .tick services readings →
        ¬ ReadsUnset (construct angular height threshold start getRPY) services entry.before.node) ↔
      2 * threshold < height) ∧
    ((∀ history world, (offbNode (construct angular height threshold start getRPY)).Run history world →
      world.fault = none) ↔ 2 * threshold < height) :=
  ⟨unread_iff angular start getRPY positive low,
    (never_faults_iff _).trans (unread_iff angular start getRPY positive low)⟩

end Region

theorem stuck_timer_stock : ¬ ∃ history world entry services readings, (offbNode stock).Run history world ∧
    entry ∈ history ∧ entry.event = .tick services readings ∧ ReadsUnset stock services entry.before.node := by
  intro ⟨history, world, entry, services, readings, run, member, tick, reads⟩
  exact (stuck_timer 0.5 0 (fun _ => (0, 0, 0)) (by norm_num) (by norm_num)).1.mpr (by norm_num) history world run
    entry member services readings tick reads

end FlightStack.Proofs
