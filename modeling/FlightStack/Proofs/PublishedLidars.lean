import FlightStack.Proofs.EndToEnd
import FlightStack.Proofs.Sampling
import FlightStack.Proofs.ThreadSafety

/-! Nothing of a lidar is published before its settings are acknowledged: the threads
of the queues go by the state that the callbacks of the configuration set. -/

namespace FlightStack.Proofs
open Driver
variable {α : Type} {queueSize : BitVec 32} {transferFormat : Int}

/-- The publishing thread is at lidars that sample only. -/
def AtSampling (threads : LdsThreads α) : Distributing α → Prop
  | .polling index | .publishing index | .popping index | .copied index _ =>
    (threads.lidars index).connectState = .sampling
  | _ => True

theorem AtSampling.kept {threads after : LdsThreads α} {place : Distributing α} (held : AtSampling threads place)
    (same : ∀ index, (threads.lidars index).connectState = .sampling → (after.lidars index).connectState = .sampling) :
    AtSampling after place := by
  cases place with
  | polling index | publishing index | popping index | copied index => exact same index held
  | entered | waiting | visiting => trivial

theorem distribute_atSampling {threads after : LdsThreads α} {outputs : List (LdsThreads.Output α)}
    (held : AtSampling threads threads.distributing) (taken : threads.distribute transferFormat = some (after, outputs)) :
    AtSampling after after.distributing ∧
      ∀ index packet, .popped index packet ∈ outputs → (threads.lidars index).connectState = .sampling := by
  have lasts := (distribute_keeps taken).2
  have stays {place : Distributing α} (before : AtSampling threads place) : AtSampling after place :=
    before.kept fun index sampling => (lasts index).trans sampling
  revert taken
  fun_cases LdsThreads.distribute transferFormat threads with
  | case3 =>
    intro taken
    cases taken
  | case5 i arrived inside lidar attended =>
    intro taken
    obtain ⟨rfl, rfl⟩ := Prod.mk.inj (Option.some.inj taken)
    refine ⟨stays ?_, by simp⟩
    by_contra idle
    exact attended (.inl idle)
  | case12 index arrived nonempty =>
    intro taken
    obtain ⟨packet, _, same⟩ := Option.map_eq_some_iff.mp taken
    obtain ⟨rfl, rfl⟩ := Prod.mk.inj same
    rw [arrived] at held
    exact ⟨stays held, by simp⟩
  | case13 index packet arrived =>
    intro taken
    obtain ⟨rfl, rfl⟩ := Prod.mk.inj (Option.some.inj taken)
    rw [arrived] at held
    refine ⟨stays held, fun other popped member => ?_⟩
    rcases List.mem_cons.mp member with same | published
    · obtain ⟨rfl, _⟩ := LdsThreads.Output.popped.inj same
      exact held
    · split at published <;> simp at published
  | case1 =>
    intro taken
    obtain ⟨rfl, rfl⟩ := Prod.mk.inj (Option.some.inj taken)
    refine ⟨?_, by simp⟩
    by_cases exits : threads.requestExit = true <;> simp [exits, AtSampling]
  | case2 | case4 | case6 | case7 =>
    intro taken
    obtain ⟨rfl, rfl⟩ := Prod.mk.inj (Option.some.inj taken)
    exact ⟨trivial, by simp⟩
  | case8 index arrived | case9 index arrived | case11 index arrived =>
    intro taken
    obtain ⟨rfl, rfl⟩ := Prod.mk.inj (Option.some.inj taken)
    rw [arrived] at held
    exact ⟨stays (by first | exact held | rwa [arrived]), by simp⟩
  | case10 index arrived =>
    intro taken
    obtain ⟨rfl, rfl⟩ := Prod.mk.inj (Option.some.inj taken)
    rw [arrived] at held
    refine ⟨stays ?_, by simp⟩
    split <;> exact held

theorem step_atSampling {threads after : LdsThreads α} {event : LdsThreads.Event α}
    {outputs : List (LdsThreads.Output α)} (held : AtSampling threads threads.distributing)
    (taken : (ldsThreads queueSize transferFormat).step threads event = some (after, outputs)) :
    AtSampling after after.distributing ∧
      ∀ index packet, .popped index packet ∈ outputs → (threads.lidars index).connectState = .sampling := by
  have lasts := (step_lasts taken).2
  cases event with
  | pushLidarData =>
    simp only [ldsThreads, LdsThreads.step] at taken
    split at taken
    next =>
      obtain ⟨rfl, rfl⟩ := Prod.mk.inj (Option.some.inj taken)
      exact ⟨held.kept lasts, by simp⟩
    next => cases taken
  | store =>
    obtain ⟨same, silent⟩ := store_leaves taken
    refine ⟨same ▸ held.kept lasts, fun index packet popped => ?_⟩
    have none := List.filterMap_eq_nil_iff.mp (silent index) _ popped
    simp [poppedAt] at none
  | distribute => exact distribute_atSampling held taken
  | sampling | requestExit =>
    obtain ⟨rfl, rfl⟩ := Prod.mk.inj (Option.some.inj taken)
    exact ⟨held.kept lasts, by simp⟩

theorem sample_connectState (threads : LdsThreads α) (indices : List (Fin 32)) (index : Fin 32) :
    ((indices.foldl sample threads).lidars index).connectState =
      if index ∈ indices then .sampling else (threads.lidars index).connectState := by
  induction indices generalizing threads with
  | nil => rfl
  | cons first rest ih =>
    rw [List.foldl_cons, ih]
    by_cases later : index ∈ rest
    · simp [later]
    · by_cases same : index = first
      · simp [same, sample]
      · simp [later, same, sample]

theorem Told.sampling_lasts {index : Fin 32} {lds after : LdsLidar α} {event : LdsLidar.Event} {calls : List (SdkCall α)}
    (told : Told lds event after calls) (before : (lds.lidars index).connectState = .sampling) :
    (after.lidars index).connectState = .sampling := by
  cases told.change index with
  | kept _ state | announced _ _ _ state => exact state.trans before
  | acknowledged _ _ _ state =>
    rw [state]
    split
    · rfl
    · exact before

theorem step_connectState {threads after : LdsThreads α} {event : LdsThreads.Event α}
    {outputs : List (LdsThreads.Output α)}
    (taken : (ldsThreads queueSize transferFormat).step threads event = some (after, outputs))
    (other : ∀ index, event ≠ .sampling index) (index : Fin 32) :
    (after.lidars index).connectState = (threads.lidars index).connectState := by
  cases event with
  | pushLidarData =>
    simp only [ldsThreads, LdsThreads.step] at taken
    split at taken
    next =>
      obtain ⟨rfl, rfl⟩ := Prod.mk.inj (Option.some.inj taken)
      rfl
    next => cases taken
  | store => exact (store_apart taken).2 index
  | distribute => exact (distribute_keeps taken).2 index
  | sampling place => exact absurd rfl (other place)
  | requestExit =>
    obtain ⟨rfl, rfl⟩ := Prod.mk.inj (Option.some.inj taken)
    rfl

variable [Arithmetic α] {entries : List (LidarEntry α)} {publishFreq : α}
  {history past future : List (Entry (Driver α) (Event α) (Output α))} {entry : Entry (Driver α) (Event α) (Output α)}
  {final : Driver α} {id : BitVec 32} {index : Fin 32}

/-- The state that the threads go by is the one the configuration has. -/
theorem run_connectState (run : (driver entries publishFreq transferFormat).Run history final) (index : Fin 32) :
    (final.threads.lidars index).connectState = .sampling ↔ (final.lds.lidars index).connectState = .sampling := by
  induction run with
  | refl =>
    refine iff_of_false (by simp [driver]) ?_
    rw [show (driver entries publishFreq transferFormat).initial.lds = (ldsLidar entries).initial from rfl,
      (quiet_initial entries).off]
    simp
  | @snoc before after history event outputs earlier taken ih =>
    cases driven_of_step taken with
    | lds done =>
      have lasts := @Told.sampling_lasts _ index _ _ _ _ (told_of_step done)
      simp only [sample_connectState, sampling, List.mem_filter, List.mem_finRange, true_and, decide_eq_true_iff]
      by_cases samples : (before.lds.lidars index).connectState = .sampling
      · simp [samples, lasts samples, ih.mpr samples]
      · have idle := ih.not.mpr samples
        split
        next turns => simp [turns.2]
        next same => exact iff_of_false idle fun turns => same ⟨samples, turns⟩
    | pub | lost => exact ih
    | stored _ _ done =>
      have step : (ldsThreads (calculatePacketQueueSize publishFreq) transferFormat).step before.threads
        (.pushLidarData _ _ _) = some (_, _) := done
      have kept := step_connectState step (by simp) index
      simp only [kept]
      exact ih
    | threads same done =>
      have other (index : Fin 32) : threadEvent event ≠ some (.sampling index) := by
        cases event <;> simp [threadEvent]
      have kept := step_connectState done (fun index equal => other index (equal ▸ same)) index
      simp only [kept]
      exact ih

theorem popped_sampling (run : (driver entries publishFreq transferFormat).Run (past ++ entry :: future) final)
    {packet : StoragePacket α} (popped : .thread (.popped index packet) ∈ entry.outputs) :
    (entry.before.lds.lidars index).connectState = .sampling := by
  obtain ⟨reached, taken, _⟩ := run.entry
  obtain ⟨moves, threads, _⟩ := threads_part.run reached
  have held := Machine.Path.invariant threads (fun threads => AtSampling threads threads.distributing) trivial
    fun _ _ taken before => (step_atSampling before taken).1
  apply (run_connectState reached index).mp
  obtain ⟨before, event, outputs, after⟩ := entry
  have driven := driven_of_step taken
  simp only at driven popped
  cases driven with
  | lds | pub | lost => simp at popped
  | stored _ _ done =>
    have step : (ldsThreads (calculatePacketQueueSize publishFreq) transferFormat).step before.threads
      (.pushLidarData _ _ _) = some (_, _) := done
    exact (step_atSampling held step).2 index packet (by simpa using popped)
  | threads _ done => exact (step_atSampling held done).2 index packet (by simpa using popped)

/-- A step that makes a lidar sample is one of its configuration. -/
theorem turn_lds (taken : (driver entries publishFreq transferFormat).step entry.before entry.event =
      some (entry.after, entry.outputs)) (before : (entry.before.lds.lidars index).connectState ≠ .sampling)
    (after : (entry.after.lds.lidars index).connectState = .sampling) :
    ∃ event calls, entry.event = .lds event ∧ entry.before.lds.step event = some (entry.after.lds, calls) := by
  obtain ⟨state, event, outputs, next⟩ := entry
  have driven := driven_of_step taken
  simp only at driven before after
  cases driven with
  | lds done => exact ⟨_, _, rfl, done⟩
  | pub | lost | stored | threads => exact absurd after before

/-- Before the first packet of a lidar is popped the lidar has come to sample, and every
setting that was asked of it until then has been acknowledged since it was asked. -/
theorem published_acknowledged (run : (driver entries publishFreq transferFormat).Run (past ++ entry :: future) final)
    {packet : StoragePacket α} (popped : .thread (.popped index packet) ∈ entry.outputs) :
    ∃ earlier turn later, past = earlier ++ turn :: later ∧
      (turn.before.lds.lidars index).connectState ≠ .sampling ∧ (turn.after.lds.lidars index).connectState = .sampling ∧
      ∀ id setting value first told middle, earlier = first ++ told :: middle → told.event = .lds (.lidarInfoChange id) →
        .called (.set id setting value) ∈ told.outputs → turn.before.lds.getLidarDevice id = some index →
        ∃ ack ∈ middle ++ [turn], ∃ response, ack.event = .lds (.reply id (.setting setting) .success response) := by
  obtain ⟨reached, _⟩ := run.entry
  have off : ((driver entries publishFreq transferFormat).initial.lds.lidars index).connectState ≠ .sampling := by
    rw [show (driver entries publishFreq transferFormat).initial.lds = (ldsLidar entries).initial from rfl,
      (quiet_initial entries).off]
    simp
  obtain ⟨earlier, turn, later, rfl, before, after⟩ :=
    reached.origin (fun driver => (driver.lds.lidars index).connectState = .sampling) off (popped_sampling run popped)
  refine ⟨earlier, turn, later, rfl, before, after, ?_⟩
  rintro id setting value first told middle rfl announced called known
  obtain ⟨begun, asking, through, turning⟩ := reached.between
  obtain ⟨event, calls, turned, step⟩ := turn_lds turning before after
  obtain ⟨requests, asked, inside⟩ : ∃ requests,
      (ldsLidar entries).step told.before.lds (.lidarInfoChange id) =
      some (told.after.lds, requests) ∧
      .set id setting value ∈ requests := by
    obtain ⟨state, event, outputs, next⟩ := told
    simp only at announced called
    subst announced
    have driven := driven_of_step asking
    simp only at driven
    cases driven with
    | lds done => exact ⟨_, done, by simpa using called⟩
    | threads same => cases same
  -- the steps of the configuration on their own
  obtain ⟨start, first, _⟩ := lds_part.run begun
  obtain ⟨between, meanwhile, events, _⟩ := lds_part.path through
  have closed : ¬ Open (turn.after.lds.lidars index) setting := by
    intro still
    exact still.nonzero (samples_by_acknowledgement (told_of_step step) before after)
  obtain ⟨reply, member, response, same⟩ :=
    acknowledged_since first asked (opened_since asked inside meanwhile known) (meanwhile.snoc step) closed
  rcases List.mem_append.mp member with during | last
  · have heard : reply.event ∈ middle.flatMap ldsTold := events ▸ List.mem_map.mpr ⟨reply, during, rfl⟩
    obtain ⟨ack, held, told⟩ := List.mem_flatMap.mp heard
    refine ⟨ack, List.mem_append_left _ held, response, ?_⟩
    rw [same] at told
    exact ldsTold_eq told
  · refine ⟨turn, List.mem_append_right _ (List.mem_singleton.mpr rfl), response, ?_⟩
    rw [List.mem_singleton.mp last] at same
    rw [turned, ← same]

theorem published_acknowledged_one : ∃ past entry future final packet,
    (driver oneLidar 10 1).Run (past ++ entry :: future) final ∧ .thread (.popped 0 packet) ∈ entry.outputs ∧
      ∃ earlier turn later, past = earlier ++ turn :: later ∧
        (turn.before.lds.lidars 0).connectState ≠ .sampling ∧ (turn.after.lds.lidars 0).connectState = .sampling := by
  obtain ⟨history, final, stored, run, outputs, _⟩ := oneLidar_run
  rw [← oneLidarDriver_eq] at run
  have popped : .thread (.popped 0 (.of stored.2 stored.1)) ∈ history.flatMap Entry.outputs := by
    rw [outputs]
    simp
  obtain ⟨entry, member, inside⟩ := List.mem_flatMap.mp popped
  obtain ⟨past, future, rfl, _⟩ := run.mem member
  obtain ⟨earlier, turn, later, split, before, after, _⟩ := published_acknowledged run inside
  exact ⟨past, entry, future, final, _, run, inside, earlier, turn, later, split, before, after⟩

end FlightStack.Proofs
