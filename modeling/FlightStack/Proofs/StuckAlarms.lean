import FlightStack.Proofs.Clocks

/-! When the stuck detection raises its alarm. The reference is what the last reset or
the last move recorded; the alarm comes eight seconds after it and opens a window of
one second in which targets are ignored. -/

namespace FlightStack.Proofs
open TaskController
variable {α : Type} [Arithmetic α]

/-- A call of `check_position_stuck_protection` or of `reset_position_stuck_detection`,
with the clock reading it takes and the position it finds. -/
inductive StuckCall (α : Type) where
  | check (reading : Int) (position : Position α)
  | reset (reading : Int) (position : Position α)

namespace StuckCall

def reading : StuckCall α → Int
  | check reading _ | reset reading _ => reading

def position : StuckCall α → Position α
  | check _ position | reset _ position => position

end StuckCall

/-- A check that throws ends the node. -/
def stuckProtection (threshold : α) : Machine (StuckDetection α) (StuckCall α) Unit where
  initial := .initial
  step stuck call := match call with
    | .check reading position =>
      match checkPositionStuckProtection threshold (.now reading) position stuck with
      | .ok checked => some (checked, [])
      | .error _ => none
    | .reset reading position => some (resetPositionStuckDetection (.now reading) position stuck, [])

def distance (first second : Position α) : α :=
  sqrt ((first.x - second.x) ^ 2 + (first.y - second.y) ^ 2 + (first.z - second.z) ^ 2)

def reference (stuck : StuckDetection α) : Position α :=
  ⟨stuck.lastPositionX, stuck.lastPositionY, stuck.lastPositionZ⟩

/-- The times that are read are on the node's own clock. -/
structure OwnClock (stuck : StuckDetection α) : Prop extends StuckClocks stuck where
  reference : stuck.lastPositionTime.clock = .ros

/-- What one check does. -/
inductive Watched (threshold : α) (reading : Int) (position : Position α) (stuck : StuckDetection α) :
    StuckDetection α → Prop where
  | move (far : threshold < distance position (reference stuck)) :
      Watched threshold reading position stuck { stuck with
        lastPositionTime := .now reading, lastPositionX := position.x, lastPositionY := position.y,
        lastPositionZ := position.z, positionStuckDetected := false,
        ignoringTargets := stuck.ignoringTargets && reading < stuck.ignoreTargetUntil.nanoseconds }
  | alarm (near : distance position (reference stuck) ≤ threshold) (quiet : stuck.positionStuckDetected = false)
      (long : (8 : α) ≤ seconds (reading - stuck.lastPositionTime.nanoseconds)) :
      Watched threshold reading position stuck { stuck with
        positionStuckDetected := true, stuckDetectionTime := .now reading,
        ignoreTargetUntil := .now (reading + 1000000000), ignoringTargets := true }
  | still (near : distance position (reference stuck) ≤ threshold)
      (idle : ¬ (stuck.positionStuckDetected = false ∧
        (8 : α) ≤ seconds (reading - stuck.lastPositionTime.nanoseconds))) :
      Watched threshold reading position stuck { stuck with
        ignoringTargets := stuck.ignoringTargets && reading < stuck.ignoreTargetUntil.nanoseconds }

omit [Arithmetic α] in
theorem close_eq (reading : Int) {stuck : StuckDetection α} (clocks : StuckClocks stuck) :
    closeIgnoreWindow (.now reading) stuck = .ok { stuck with
      ignoringTargets := stuck.ignoringTargets && reading < stuck.ignoreTargetUntil.nanoseconds } := by
  unfold closeIgnoreWindow
  split
  next ignoring =>
    rw [ge_same (by rw [now_clock, clocks.ignoring ignoring]), ignoring, Bool.true_and]
    rcases lt_or_ge reading stuck.ignoreTargetUntil.nanoseconds with before | ended
    · simp [bind, Except.bind, pure, Except.pure, Time.now, before, not_le.mpr before, ← ignoring]
    · simp [bind, Except.bind, pure, Except.pure, Time.now, ended, not_lt.mpr ended]
  next closed =>
    rw [Bool.not_eq_true] at closed
    rw [closed, Bool.false_and, ← closed]

theorem check_of_track {threshold : α} {reading : Int} {position : Position α} {stuck tracked : StuckDetection α}
    (ran : trackMovement threshold (.now reading) position stuck = .ok tracked) (clocks : StuckClocks tracked) :
    checkPositionStuckProtection threshold (.now reading) position stuck = .ok { tracked with
      ignoringTargets := tracked.ignoringTargets && reading < tracked.ignoreTargetUntil.nanoseconds } := by
  rw [checkPositionStuckProtection, ran]
  change (closeIgnoreWindow (.now reading) tracked >>= _) = _
  rw [close_eq reading clocks]
  change (logStuck (.now reading) _ >>= _) = _
  rw [log_ok reading]
  · rfl
  · refine ⟨clocks.detected, fun ignoring => clocks.ignoring ?_⟩
    simp only [Bool.and_eq_true] at ignoring
    exact ignoring.1

theorem watched (threshold : α) (reading : Int) (position : Position α) {stuck : StuckDetection α}
    (own : OwnClock stuck) : ∃ checked,
      checkPositionStuckProtection threshold (.now reading) position stuck = .ok checked ∧
        Watched threshold reading position stuck checked := by
  rcases lt_or_ge threshold (distance position (reference stuck)) with far | near
  · exact ⟨_, check_of_track (if_pos far) ⟨nofun, own.ignoring⟩, .move far⟩
  have tracked : trackMovement threshold (.now reading) position stuck = .ok (if !stuck.positionStuckDetected &&
      (8 : α) ≤ seconds (reading - stuck.lastPositionTime.nanoseconds) then { stuck with
        positionStuckDetected := true, stuckDetectionTime := .now reading,
        ignoreTargetUntil := .now (reading + 1000000000), ignoringTargets := true } else stuck) := by
    refine (if_neg (not_lt.mpr near)).trans ?_
    rw [sub_same (by rw [now_clock, own.reference])]
    rfl
  by_cases due : stuck.positionStuckDetected = false ∧
      (8 : α) ≤ seconds (reading - stuck.lastPositionTime.nanoseconds)
  · rw [if_pos (by simpa using due)] at tracked
    have checked := check_of_track tracked ⟨fun _ => ⟨rfl, rfl⟩, fun _ => rfl⟩
    simp only [Time.now, Bool.true_and, lt_add_iff_pos_right] at checked
    exact ⟨_, checked, .alarm near due.1 due.2⟩
  · rw [if_neg (by simpa using due)] at tracked
    exact ⟨_, check_of_track tracked own.toStuckClocks, .still near due⟩

/-- What one call does. -/
inductive StuckStep (threshold : α) (stuck : StuckDetection α) : StuckCall α → StuckDetection α → Prop where
  | check {reading : Int} {position : Position α} {checked : StuckDetection α}
      (watched : Watched threshold reading position stuck checked) :
      StuckStep threshold stuck (.check reading position) checked
  | reset (reading : Int) (position : Position α) :
      StuckStep threshold stuck (.reset reading position) (resetPositionStuckDetection (.now reading) position stuck)

variable {threshold : α} {stuck after : StuckDetection α} {call : StuckCall α} {outputs : List Unit}

theorem OwnClock.step (own : OwnClock stuck) (step : StuckStep threshold stuck call after) : OwnClock after := by
  cases step with
  | reset reading position => exact ⟨.reset reading position, rfl⟩
  | check watched =>
    cases watched with
    | move => exact ⟨⟨nofun, fun ignoring => own.ignoring (Bool.and_elim_left ignoring)⟩, rfl⟩
    | alarm => exact ⟨⟨fun _ => ⟨rfl, rfl⟩, fun _ => rfl⟩, own.reference⟩
    | still => exact ⟨⟨own.detected, fun ignoring => own.ignoring (Bool.and_elim_left ignoring)⟩, own.reference⟩

theorem stuck_step (own : OwnClock stuck)
    (taken : (stuckProtection threshold).step stuck call = some (after, outputs)) : StuckStep threshold stuck call after := by
  cases call with
  | check reading position =>
    obtain ⟨checked, ran, watched⟩ := watched threshold reading position own
    simp only [stuckProtection, ran, Option.some.injEq, Prod.mk.injEq] at taken
    exact taken.1 ▸ .check watched
  | reset reading position =>
    cases taken
    exact .reset reading position

theorem stuck_accepts (threshold : α) (stuck : StuckDetection α) (call : StuckCall α) (own : OwnClock stuck) :
    ∃ after outputs, (stuckProtection threshold).step stuck call = some (after, outputs) ∧ OwnClock after := by
  cases call with
  | check reading position =>
    obtain ⟨checked, ran, watched⟩ := watched threshold reading position own
    exact ⟨checked, [], by simp only [stuckProtection, ran], own.step (.check watched)⟩
  | reset reading position => exact ⟨_, [], rfl, .reset reading position, rfl⟩

abbrev StuckEntry (α : Type) := Entry (StuckDetection α) (StuckCall α) Unit

/-- The call records a new reference: a reset does, and a check beyond the threshold. -/
def Records (threshold : α) (entry : StuckEntry α) : Prop :=
  match entry.event with
  | .check _ position => threshold < distance position (reference entry.before)
  | .reset .. => True

/-- The call raises the alarm. -/
def Detects (entry : StuckEntry α) : Prop :=
  (∃ reading position, entry.event = .check reading position) ∧
    entry.before.positionStuckDetected = false ∧ entry.after.positionStuckDetected = true

section Step
variable {entry : StuckEntry α} (step : StuckStep threshold entry.before entry.event entry.after)
include step

theorem StuckStep.records (records : Records threshold entry) :
    (entry.after.lastPositionTime, reference entry.after) = (Time.now entry.event.reading, entry.event.position) := by
  obtain ⟨before, event, outputs, after⟩ := entry
  dsimp only at step
  cases step with
  | reset => rfl
  | check watched =>
    cases watched with
    | move => rfl
    | alarm near | still near => exact absurd near (not_le.mpr records)

theorem StuckStep.keeps (idle : ¬ Records threshold entry) :
    (entry.after.lastPositionTime, reference entry.after) = (entry.before.lastPositionTime, reference entry.before) ∧
      (entry.before.positionStuckDetected = true → entry.after.positionStuckDetected = true) := by
  obtain ⟨before, event, outputs, after⟩ := entry
  dsimp only at step
  cases step with
  | reset => exact absurd trivial idle
  | check watched =>
    cases watched with
    | move far => exact absurd far idle
    | alarm => exact ⟨rfl, fun _ => rfl⟩
    | still => exact ⟨rfl, id⟩

theorem StuckStep.detects (detects : Detects entry) :
    (entry.after.stuckDetectionTime, entry.after.ignoreTargetUntil) =
      (Time.now entry.event.reading, Time.now (entry.event.reading + 1000000000)) := by
  obtain ⟨before, event, outputs, after⟩ := entry
  obtain ⟨_, quiet, raised⟩ := detects
  dsimp only at step
  cases step with
  | reset => cases raised
  | check watched =>
    cases watched with
    | move => cases raised
    | alarm => rfl
    | still => exact absurd (raised.symm.trans quiet) (by decide)

theorem StuckStep.undetected (idle : ¬ Detects entry) :
    (entry.after.stuckDetectionTime, entry.after.ignoreTargetUntil) =
      (entry.before.stuckDetectionTime, entry.before.ignoreTargetUntil) ∧
      (entry.after.ignoringTargets = true → entry.before.ignoringTargets = true) := by
  obtain ⟨before, event, outputs, after⟩ := entry
  dsimp only at step
  cases step with
  | reset => exact ⟨rfl, nofun⟩
  | check watched =>
    cases watched with
    | move | still => exact ⟨rfl, Bool.and_elim_left⟩
    | alarm near quiet => exact absurd ⟨⟨_, _, rfl⟩, quiet, rfl⟩ idle

/-- A check raises the alarm by the state it finds. -/
theorem StuckStep.detects_iff {reading : Int} {position : Position α} (check : entry.event = .check reading position) :
    Detects entry ↔ entry.before.positionStuckDetected = false ∧
      (8 : α) ≤ seconds (reading - entry.before.lastPositionTime.nanoseconds) ∧
      distance position (reference entry.before) ≤ threshold := by
  obtain ⟨before, event, outputs, after⟩ := entry
  cases check
  dsimp only at step
  cases step with
  | check watched =>
    cases watched with
    | move far => exact iff_of_false (fun detects => Bool.false_ne_true detects.2.2) fun due => absurd far (not_lt.mpr due.2.2)
    | alarm near quiet long => exact iff_of_true ⟨⟨_, _, rfl⟩, quiet, rfl⟩ ⟨quiet, long, near⟩
    | still near idle =>
      refine iff_of_false (fun detects => ?_) fun due => idle ⟨due.1, due.2.1⟩
      exact absurd (detects.2.1.symm.trans detects.2.2) (by decide)

theorem StuckStep.window {reading : Int} {position : Position α} (check : entry.event = .check reading position)
    (ignoring : entry.after.ignoringTargets = true) : reading < entry.after.ignoreTargetUntil.nanoseconds := by
  obtain ⟨before, event, outputs, after⟩ := entry
  cases check
  dsimp only at step
  cases step with
  | check watched =>
    cases watched with
    | move | still => exact of_decide_eq_true (Bool.and_elim_right ignoring)
    | alarm => exact Int.lt_add_of_pos_right reading (by decide)

end Step

section Run
variable {start final : StuckDetection α} {history past future : List (StuckEntry α)} {entry : StuckEntry α}

/-- Whatever the state was before, a run that begins with a reset consists of such steps. -/
theorem stuck_steps {reading : Int} {position : Position α}
    (path : (stuckProtection threshold).Path start (entry :: future) final) (reset : entry.event = .reset reading position) :
    ∀ later ∈ entry :: future, StuckStep threshold later.before later.event later.after := by
  obtain ⟨_, taken, onward⟩ := (show (stuckProtection threshold).Path start ([] ++ entry :: future) final from path).entry
  have first : entry.after = resetPositionStuckDetection (.now reading) position entry.before := by
    rw [reset] at taken
    exact (congrArg Prod.fst (Option.some.inj taken)).symm
  have own : OwnClock entry.after := first ▸ ⟨.reset reading position, rfl⟩
  intro later member
  rcases List.mem_cons.mp member with rfl | member
  · rw [reset, first]
    exact .reset reading position
  · apply onward.each OwnClock own (fun later => StuckStep threshold later.before later.event later.after) _ _ member
    intro later taken own
    have step := stuck_step own taken
    exact ⟨step, own.step step⟩

variable (path : (stuckProtection threshold).Path start history final)
  (steps : ∀ entry ∈ history, StuckStep threshold entry.before entry.event entry.after)
include path steps

theorem latest_record (recorded : ∃ entry ∈ history, Records threshold entry) : ∃ earlier recording since,
    history = earlier ++ recording :: since ∧ Records threshold recording ∧ (∀ later ∈ since, ¬ Records threshold later) ∧
      (final.lastPositionTime, reference final) = (Time.now recording.event.reading, recording.event.position) := by
  rcases path.latest (Records threshold) (fun stuck => (stuck.lastPositionTime, reference stuck))
    (fun entry => (Time.now entry.event.reading, entry.event.position))
    (fun entry member _ records => (steps entry member).records records)
    (fun entry member _ idle => ((steps entry member).keeps idle).1) with ⟨none, _⟩ | found
  · obtain ⟨entry, member, records⟩ := recorded
    exact absurd records (none entry member)
  · exact found

theorem reference_kept (idle : ∀ entry ∈ history, ¬ Records threshold entry) :
    (final.lastPositionTime, reference final) = (start.lastPositionTime, reference start) ∧
      (start.positionStuckDetected = true → final.positionStuckDetected = true) := by
  apply path.relates (fun start final =>
    (final.lastPositionTime, reference final) = (start.lastPositionTime, reference start) ∧
      (start.positionStuckDetected = true → final.positionStuckDetected = true)) (fun _ => ⟨rfl, id⟩)
  · intro first middle last earlier later
    exact ⟨later.1.trans earlier.1, fun raised => later.2 (earlier.2 raised)⟩
  · intro entry member _
    exact (steps entry member).keeps (idle entry member)

theorem window_latest (closed : start.ignoringTargets = false) (ignoring : final.ignoringTargets = true) :
    ∃ earlier alarm since, history = earlier ++ alarm :: since ∧ Detects alarm ∧
      (final.stuckDetectionTime, final.ignoreTargetUntil) =
        (Time.now alarm.event.reading, Time.now (alarm.event.reading + 1000000000)) := by
  rcases path.latest Detects (fun stuck => (stuck.stuckDetectionTime, stuck.ignoreTargetUntil))
    (fun entry => (Time.now entry.event.reading, Time.now (entry.event.reading + 1000000000)))
    (fun entry member _ detects => (steps entry member).detects detects)
    (fun entry member _ idle => ((steps entry member).undetected idle).1) with
    ⟨none, _⟩ | ⟨earlier, alarm, since, whole, detects, _, times⟩
  · have still := path.invariant (fun stuck => stuck.ignoringTargets = false) closed (by
      intro entry member _ before
      by_contra opened
      exact absurd (((steps entry member).undetected (none entry member)).2 (Bool.eq_true_of_not_eq_false opened))
        (Bool.eq_false_iff.mp before))
    exact absurd ignoring (Bool.eq_false_iff.mp still)
  · exact ⟨earlier, alarm, since, whole, detects, times⟩

end Run

theorem seconds_mono {first second : Int} (later : first ≤ second) : (seconds first : α) ≤ seconds second :=
  div_le_div_of_nonneg_right (Int.cast_le.mpr later) (by positivity)

section Alarms
variable {start final : StuckDetection α} {past between future : List (StuckEntry α)} {entry first second : StuckEntry α}

theorem alarm_iff (path : (stuckProtection threshold).Path start (past ++ entry :: future) final)
    (steps : ∀ later ∈ past ++ entry :: future, StuckStep threshold later.before later.event later.after)
    (recorded : ∃ earlier ∈ past, Records threshold earlier) {reading : Int} {position : Position α}
    (check : entry.event = .check reading position) : ∃ earlier recording since, past = earlier ++ recording :: since ∧
      Records threshold recording ∧ (∀ later ∈ since, ¬ Records threshold later) ∧
      (Detects entry ↔ entry.before.positionStuckDetected = false ∧
        (8 : α) ≤ seconds (reading - recording.event.reading) ∧
        ∀ later ∈ since ++ [entry], distance later.event.position recording.event.position ≤ threshold) := by
  obtain ⟨reached, _, _⟩ := path.entry
  have before (later : StuckEntry α) (member : later ∈ past) := steps later (List.mem_append_left _ member)
  obtain ⟨earlier, recording, since, rfl, records, idle, held⟩ := latest_record reached before recorded
  have near (later : StuckEntry α) (member : later ∈ since) :
      distance later.event.position recording.event.position ≤ threshold := by
    obtain ⟨_, _, onward⟩ := reached.entry
    obtain ⟨quiet, rest, rfl, through, _⟩ := onward.mem member
    have kept := (reference_kept through (fun entry inside => before entry (by simp [inside])) fun entry inside =>
      idle entry (List.mem_append_left _ inside)).1
    have wrote := (before recording (by simp)).records records
    have unmoved := idle later member
    rw [← (Prod.mk.inj (kept.trans wrote)).2]
    cases call : later.event with
    | check reading position => simpa [Records, call, StuckCall.position] using unmoved
    | reset => simp [Records, call] at unmoved
  refine ⟨earlier, recording, since, rfl, records, idle, ?_⟩
  obtain ⟨time, place⟩ := Prod.mk.inj held
  rw [(steps entry (by simp)).detects_iff check, time, place, List.forall_mem_append, List.forall_mem_singleton, check]
  exact ⟨fun due => ⟨due.1, due.2.1, near, due.2.2⟩, fun due => ⟨due.1, due.2.1, due.2.2.2⟩⟩

theorem alarms_apart (path : (stuckProtection threshold).Path start (past ++ first :: between ++ second :: future) final)
    (steps : ∀ later ∈ past ++ first :: between ++ second :: future, StuckStep threshold later.before later.event later.after)
    (clock : (past ++ first :: between ++ second :: future).Pairwise fun earlier later =>
      earlier.event.reading ≤ later.event.reading)
    (raised : Detects first) (again : Detects second) :
    (8 : α) ≤ seconds (second.event.reading - first.event.reading) := by
  obtain ⟨_, _, through, _⟩ := path.between
  have inside (later : StuckEntry α) (member : later ∈ between) := steps later (by simp [member])
  obtain ⟨reading, position, check⟩ := again.1
  obtain ⟨quiet, long, _⟩ := ((steps second (by simp)).detects_iff check).mp again
  by_cases recorded : ∃ entry ∈ between, Records threshold entry
  · obtain ⟨earlier, recording, since, rfl, _, _, held⟩ := latest_record through inside recorded
    have order : first.event.reading ≤ recording.event.reading := by
      rw [List.append_assoc, List.cons_append] at clock
      exact List.rel_of_pairwise_cons (List.pairwise_append.mp clock).2.1 (by simp)
    rw [(Prod.mk.inj held).1] at long
    apply long.trans
    rw [check]
    exact seconds_mono (Int.sub_le_sub_left order reading)
  · have idle (later : StuckEntry α) (member : later ∈ between) : ¬ Records threshold later :=
      fun records => recorded ⟨later, member, records⟩
    have still := (reference_kept through inside idle).2 raised.2.2
    exact absurd (still.symm.trans quiet) (by decide)

theorem ignoring_within {history : List (StuckEntry α)} (path : (stuckProtection threshold).Path start history final)
    (steps : ∀ later ∈ history, StuckStep threshold later.before later.event later.after)
    (closed : start.ignoringTargets = false)
    (clock : history.Pairwise fun earlier later => earlier.event.reading ≤ later.event.reading)
    (member : entry ∈ history) {reading : Int} {position : Position α} (check : entry.event = .check reading position)
    (ignoring : entry.after.ignoringTargets = true) :
    ∃ detected, entry.after.stuckDetectionTime = .now detected ∧ detected ≤ reading ∧
      reading < detected + 1000000000 := by
  have open_ := (steps entry member).window check ignoring
  obtain ⟨past, future, rfl, reached, taken, _⟩ := path.mem member
  rw [List.append_cons] at clock steps
  have upTo := reached.snoc taken
  obtain ⟨earlier, alarm, since, whole, _, times⟩ := window_latest upTo
    (fun later inside => steps later (List.mem_append_left _ inside)) closed ignoring
  obtain ⟨began, ends⟩ := Prod.mk.inj times
  rw [ends] at open_
  refine ⟨_, began, ?_, open_⟩
  have order : alarm.event.reading ≤ entry.event.reading := by
    have found : alarm ∈ past ++ [entry] := whole ▸ List.mem_append_right _ List.mem_cons_self
    rcases List.mem_append.mp found with before | last
    · exact (List.pairwise_append.mp (List.pairwise_append.mp clock).1).2.2 alarm before entry (by simp)
    · rw [List.mem_singleton.mp last]
  rwa [check] at order

end Alarms

/-- The alarms of any run that begins with a reset, on a clock that does not go back. -/
theorem stuck_alarms (threshold : α) (stuck : StuckDetection α) (reading : Int) (position : Position α)
    (calls : List (StuckCall α)) (clock : (reading :: calls.map StuckCall.reading).Pairwise (· ≤ ·)) :
    ∃ history final, (stuckProtection threshold).Path stuck history final ∧
      history.map Entry.event = .reset reading position :: calls ∧
      (∀ past entry future, history = past ++ entry :: future → ∀ now here, entry.event = .check now here →
        ∃ earlier recording since, past = earlier ++ recording :: since ∧ Records threshold recording ∧
          (∀ later ∈ since, ¬ Records threshold later) ∧
          (Detects entry ↔ entry.before.positionStuckDetected = false ∧
            (8 : α) ≤ seconds (now - recording.event.reading) ∧
            ∀ later ∈ since ++ [entry], distance later.event.position recording.event.position ≤ threshold)) ∧
      (∀ past first between second future, history = past ++ first :: between ++ second :: future →
        Detects first → Detects second → (8 : α) ≤ seconds (second.event.reading - first.event.reading)) ∧
      ∀ entry ∈ history, ∀ now here, entry.event = .check now here → entry.after.ignoringTargets = true →
        ∃ detected, entry.after.stuckDetectionTime = .now detected ∧ detected ≤ now ∧ now < detected + 1000000000 := by
  let first : StuckEntry α := ⟨stuck, .reset reading position, [], resetPositionStuckDetection (.now reading) position stuck⟩
  obtain ⟨history, final, onward, same⟩ := (stuckProtection threshold).runs OwnClock (stuck_accepts threshold)
    (show OwnClock first.after from ⟨.reset reading position, rfl⟩) calls
  have path : (stuckProtection threshold).Path stuck (first :: history) final := .cons rfl onward
  have steps := stuck_steps path rfl
  have events : (first :: history).map Entry.event = .reset reading position :: calls := congrArg (_ :: ·) same
  have sorted : (first :: history).Pairwise fun earlier later => earlier.event.reading ≤ later.event.reading := by
    have readings : (List.map StuckCall.reading (.reset reading position :: calls)).Pairwise (· ≤ ·) := clock
    rw [← events, List.pairwise_map, List.pairwise_map] at readings
    exact readings
  refine ⟨_, final, path, events, ?_, ?_, ?_⟩
  · intro past entry future whole now here check
    rw [whole] at path steps
    apply alarm_iff path steps _ check
    -- the check is not the reset the run begins with
    cases past with
    | nil =>
      obtain ⟨rfl, _⟩ := List.cons.inj whole
      cases check
    | cons earliest past =>
      obtain ⟨rfl, _⟩ := List.cons.inj whole
      exact ⟨first, List.mem_cons_self, trivial⟩
  · intro past first between second future whole raised again
    rw [whole] at path steps sorted
    exact alarms_apart path steps sorted raised again
  · intro entry member now here check ignoring
    rcases List.mem_cons.mp member with rfl | later
    · cases check
    · exact ignoring_within onward (fun entry member => steps entry (List.mem_cons_of_mem _ member)) rfl
        sorted.of_cons later check ignoring

theorem stuck_alarms_hovering : ∃ reset alarm final, (stuckProtection (0.1 : ℝ)).Path .initial [reset, alarm] final ∧
    reset.event = .reset 0 ⟨0, 0, 1⟩ ∧ alarm.event = .check 8000000000 ⟨0, 0.1, 1⟩ ∧ Detects alarm := by
  obtain ⟨history, final, path, events, alarms, _⟩ := stuck_alarms (0.1 : ℝ) .initial 0 ⟨0, 0, 1⟩
    [.check 8000000000 ⟨0, 0.1, 1⟩] (by simp [StuckCall.reading])
  obtain ⟨reset, _, rfl, begins, more⟩ := List.map_eq_cons_iff.mp events
  obtain ⟨alarm, _, rfl, checks, none⟩ := List.map_eq_cons_iff.mp more
  obtain rfl := List.map_eq_nil_iff.mp none
  refine ⟨reset, alarm, final, path, begins, checks, ?_⟩
  -- the reset has cleared the flag
  have quiet : alarm.before.positionStuckDetected = false := by
    have whole : (stuckProtection (0.1 : ℝ)).Path .initial ([] ++ reset :: [alarm]) final := path
    obtain ⟨_, taken, later⟩ := whole.entry
    have rest : (stuckProtection (0.1 : ℝ)).Path reset.after ([] ++ alarm :: []) final := later
    rw [begins] at taken
    rw [rest.entry.1.stays, ← (Prod.mk.inj (Option.some.inj taken)).1]
    rfl
  obtain ⟨earlier, recording, since, only, _, _, detects⟩ := alarms [reset] alarm [] rfl _ _ checks
  obtain ⟨rfl, rfl⟩ : recording = reset ∧ since = [] := by
    obtain ⟨_, rfl, rfl⟩ | ⟨_, rfl, none⟩ := List.cons_eq_append_iff.mp only
    · exact ⟨rfl, rfl⟩
    · simp at none
  refine detects.mpr ⟨quiet, ?_, ?_⟩
  · rw [begins]
    norm_num [seconds, StuckCall.reading]
  · intro later member
    obtain rfl := List.mem_singleton.mp member
    rw [checks, begins]
    have off : (0 : ℝ) ≤ 0.1 := by norm_num
    have moved : Real.sqrt (0.1 ^ 2) = 0.1 := Real.sqrt_sq off
    simp [distance, StuckCall.position, sqrt, moved]

end FlightStack.Proofs
