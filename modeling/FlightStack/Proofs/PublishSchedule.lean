import FlightStack.Proofs.PointAccount

/-! Without synchronised clocks frames keep to a schedule that starts with the first
check: a check publishes exactly when the next frame is due. -/

namespace FlightStack.Proofs
open PubHandler
variable {α : Type}

/-- When a check with the clock of the computer is made -/
def unsyncedAt (pub : PubHandler α) (event : Event α) : Option Int :=
  if pub.isTimestampSync then none
  else match event with
    | .checkTimer now => some now
    | _ => none

/-- The times of such checks -/
def unsyncedTimes (history : List (Entry (PubHandler α) (Event α) (Output α))) : List Int :=
  history.filterMap fun entry => unsyncedAt entry.before entry.event

/-- The number of frames that they published -/
def unsyncedFrames (history : List (Entry (PubHandler α) (Event α) (Output α))) : Nat :=
  history.countP fun entry => (unsyncedAt entry.before entry.event).isSome && !entry.outputs.isEmpty

variable [Arithmetic α] {lidarExtrinsics : BitVec 32 → Option (ExtParameter α)} {config : PointCloudConfig}
  {pub after : PubHandler α} {event : Event α} {outputs : List (Output α)}

theorem lastPubTime_kept (taken : (pubHandler lidarExtrinsics config).step pub event = some (after, outputs))
    (other : unsyncedAt pub event = none) : after.lastPubTime = pub.lastPubTime := by
  cases event with
  | onLivoxLidarPointCloud handle devType data now =>
    simp only [pubHandler, PubHandler.step, PubHandler.onLivoxLidarPointCloud] at taken
    split at taken
    next => cases taken
    next =>
      split at taken
      next =>
        obtain ⟨rfl, rfl⟩ := Prod.mk.inj (Option.some.inj taken)
        rfl
      next =>
        obtain ⟨packet, _, same⟩ := Option.map_eq_some_iff.mp taken
        obtain ⟨rfl, rfl⟩ := Prod.mk.inj same
        rfl
  | enqueue =>
    obtain ⟨packet, _, same⟩ := Option.map_eq_some_iff.mp taken
    obtain ⟨rfl, rfl⟩ := Prod.mk.inj same
    rfl
  | rawDataProcess =>
    simp only [pubHandler, PubHandler.step, PubHandler.rawDataProcess] at taken
    split at taken
    next => cases taken
    next =>
      obtain ⟨processed, done, same⟩ := Option.map_eq_some_iff.mp taken
      obtain ⟨rfl, rfl⟩ := Prod.mk.inj same
      split at done
      next =>
        obtain rfl := Option.some.inj done
        rfl
      next => cases done
  | checkTimer now =>
    have on : pub.isTimestampSync = true := by
      by_contra off
      simp [unsyncedAt, off] at other
    simp only [pubHandler, PubHandler.step, PubHandler.checkTimer] at taken
    split at taken
    next => cases taken
    next =>
      rw [if_pos on] at taken
      obtain ⟨_, _, _, _, kept⟩ := checkSynced_kept taken
      exact kept
  | requestExit =>
    obtain ⟨rfl, rfl⟩ := Prod.mk.inj (Option.some.inj taken)
    rfl

theorem unsynced_step {now : Int} (taken : (pubHandler lidarExtrinsics config).step pub event = some (after, outputs))
    (check : unsyncedAt pub event = some now) :
    (pub.lastPubTime = none → outputs = [] ∧ after.lastPubTime = some now) ∧
      ∀ last, pub.lastPubTime = some last →
        (last + config.publishInterval.toInt ≤ now → outputs ≠ [] ∧
          after.lastPubTime = some (last + config.publishInterval.toInt)) ∧
        (now < last + config.publishInterval.toInt → outputs = [] ∧ after.lastPubTime = some last) := by
  cases event with
  | onLivoxLidarPointCloud | enqueue | rawDataProcess | requestExit => simp [unsyncedAt] at check
  | checkTimer time =>
    simp only [unsyncedAt] at check
    split at check
    next => cases check
    next off =>
      obtain rfl := Option.some.inj check
      simp only [pubHandler, PubHandler.step, PubHandler.checkTimer] at taken
      split at taken
      next => cases taken
      next id checks =>
        rw [if_neg off] at taken
        revert taken
        fun_cases checkUnsynced config time { pub with checking := none } with
        | case1 fresh =>
          intro taken
          obtain ⟨rfl, rfl⟩ := Prod.mk.inj (Option.some.inj taken)
          simp_all
        | case2 last started early =>
          intro taken
          obtain ⟨rfl, rfl⟩ := Prod.mk.inj (Option.some.inj taken)
          simp_all
          omega
        | case3 last started due =>
          intro taken
          obtain ⟨frame, gathered, same⟩ := Option.map_eq_some_iff.mp taken
          obtain ⟨rfl, rfl⟩ := Prod.mk.inj same
          simp_all
          omega

variable {history : List (Entry (PubHandler α) (Event α) (Output α))}

theorem run_schedule (run : (pubHandler lidarExtrinsics config).Run history pub) : pub.lastPubTime =
    (unsyncedTimes history).head?.map fun start => start + unsyncedFrames history * config.publishInterval.toInt := by
  induction run with
  | refl => rfl
  | @snoc state after history event outputs earlier taken ih =>
    rw [unsyncedTimes, List.filterMap_append, ← unsyncedTimes, unsyncedFrames, List.countP_append, ← unsyncedFrames]
    cases check : unsyncedAt state event with
    | none =>
      rw [lastPubTime_kept taken check, ih]
      simp [check]
    | some now =>
      obtain ⟨starts, continues⟩ := unsynced_step taken check
      cases times : unsyncedTimes history with
      | nil =>
        rw [times] at ih
        obtain ⟨silent, started⟩ := starts ih
        have none : unsyncedFrames history = 0 := by
          refine List.countP_eq_zero.mpr fun entry member => ?_
          have unchecked := List.filterMap_eq_nil_iff.mp times entry member
          simp [unchecked]
        rw [started]
        simp [check, silent, none]
      | cons start rest =>
        rw [times] at ih
        obtain ⟨due, early⟩ := continues _ ih
        by_cases reached : start + unsyncedFrames history * config.publishInterval.toInt + config.publishInterval.toInt ≤ now
        · obtain ⟨published, next⟩ := due reached
          rw [next]
          simp [check, published, add_mul, add_assoc]
        · obtain ⟨silent, same⟩ := early (not_le.mp reached)
          rw [same]
          simp [check, silent]

/-- A check with the clock of the computer publishes exactly when the next frame is due
by the schedule, however late the frames before it were. The first check only starts it. -/
theorem unsynced_schedule {past future : List (Entry (PubHandler α) (Event α) (Output α))} {now : Int}
    (run : (pubHandler lidarExtrinsics config).Run (past ++ ⟨pub, event, outputs, after⟩ :: future) final)
    (check : unsyncedAt pub event = some now) :
    (unsyncedTimes past = [] → outputs = []) ∧ ∀ start rest, unsyncedTimes past = start :: rest →
      (outputs ≠ [] ↔ start + (unsyncedFrames past + 1) * config.publishInterval.toInt ≤ now) := by
  obtain ⟨reached, taken, _⟩ := run.entry
  obtain ⟨starts, continues⟩ := unsynced_step taken check
  have schedule := run_schedule reached
  constructor
  · intro first
    rw [first] at schedule
    exact (starts schedule).1
  · intro start rest started
    rw [started] at schedule
    obtain ⟨due, early⟩ := continues _ schedule
    rw [add_assoc, ← add_one_mul] at due early
    refine ⟨fun published => ?_, fun reached => (due reached).1⟩
    by_contra late
    exact published (early (not_le.mp late)).1

theorem unsynced_schedule_second : ∃ past last final,
    (pubHandler noExtrinsics tenHertz).Run (past ++ [last]) final ∧ unsyncedAt last.before last.event = some 250000000 ∧
      (last.outputs ≠ [] ↔ (0 : Int) + (unsyncedFrames past + 1) * 100000000 ≤ 250000000) := by
  have recorded : (pubHandler noExtrinsics tenHertz).record (pubHandler noExtrinsics tenHertz).initial
    (onePacketEvents .noSync 0 0 ++ onePacketEvents .noSync 0 250000000) = some ([_, _, _, _, _, _, _, _], _) := rfl
  have run : (pubHandler noExtrinsics tenHertz).Run ([_, _, _, _, _, _, _] ++ _ :: []) _ := Machine.path_of_record recorded
  exact ⟨_, _, _, run, rfl, (unsynced_schedule run rfl).2 0 [] rfl⟩

end FlightStack.Proofs
