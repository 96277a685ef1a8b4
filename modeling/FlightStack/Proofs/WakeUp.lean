import Mathlib.Algebra.BigOperators.Fin
import FlightStack.Proofs.FrameDelivery

/-! The publishing thread does not sleep over packets. A lidar that is sampling and
has packets waiting has a signal given, a signal to come, or a visit ahead. -/

namespace FlightStack.Proofs
open LdsThreads
variable {α : Type} {index : Fin 32} {queueSize : BitVec 32} {transferFormat : Int} {threads after : LdsThreads α}
  {outputs : List (Output α)} {history : List (Entry (LdsThreads α) (Event α) (Output α))}

/-- The publishing thread has yet to visit the lidar on its way, or is there. -/
def Ahead (index : Fin 32) : Distributing α → Prop
  | .visiting i => i ≤ index
  | .polling place | .publishing place | .popping place | .copied place _ => place ≤ index
  | _ => False

/-- The storing thread has pushed a packet and not yet come past its signal. -/
def Owes (index : Fin 32) : Storing α → Prop
  | .stored place => place = index
  | .getCount | .signal => True
  | _ => False

def Served (index : Fin 32) (threads : LdsThreads α) : Prop :=
  pending (threads.data index) = [] ∨ 0 < threads.pcdSemaphore ∨ Ahead index threads.distributing ∨
    Owes index threads.storing

theorem ThreadsHeld.pending_null (held : ThreadsHeld (placeBits queueSize) threads)
    (null : (threads.data index).storagePacket.isNone) : pending (threads.data index) = [] := by
  rw [(held index).fresh null]
  exact pending_fresh

theorem ThreadsHeld.isEmpty_iff (held : ThreadsHeld (placeBits queueSize) threads) :
    (threads.data index).queueIsEmpty ↔ pending (threads.data index) = [] := by
  rcases (held index).kept with fresh | usable
  · rw [fresh]
    exact ⟨fun _ => pending_fresh, fun _ => rfl⟩
  · exact usable.isEmpty_iff

/-- A step that pushes nothing to the lidar and takes no signal has only its own
thread's part to see to. -/
theorem Served.carried (served : Served index threads)
    (account : pending (threads.data index) ++ outputs.filterMap (pushedAt index) =
      outputs.filterMap (poppedAt index) ++ pending (after.data index))
    (quiet : outputs.filterMap (pushedAt index) = []) (signals : threads.pcdSemaphore ≤ after.pcdSemaphore)
    (visits : Ahead index threads.distributing → Served index after)
    (owes : Owes index threads.storing → Served index after) : Served index after := by
  rcases served with empty | signal | ahead | owed
  · rw [empty, quiet] at account
    exact .inl (List.append_eq_nil_iff.mp account.symm).2
  · exact .inr (.inl (signal.trans_le signals))
  · exact visits ahead
  · exact owes owed

theorem store_served (held : ThreadsHeld (placeBits queueSize) threads)
    (taken : threads.store queueSize = some (after, outputs)) (served : Served index threads) : Served index after := by
  have account := (store_accounted held taken).account index
  have visits (same : after.distributing = threads.distributing) (ahead : Ahead index threads.distributing) :
    Served index after := .inr (.inr (.inl (same ▸ ahead)))
  revert taken
  fun_cases LdsThreads.store queueSize threads with
  | case1 =>
    intro taken
    cases taken
  | case2 place lidarData baseTime arrived allocated =>
    intro taken
    obtain ⟨rfl, rfl⟩ := Prod.mk.inj (Option.some.inj taken)
    refine served.carried account rfl ?_ (visits ?_) fun owed => by simp [arrived, Owes] at owed
    all_goals simp only [allocated]; split <;> rfl
  | case3 place lidarData baseTime arrived | case4 place lidarData baseTime arrived =>
    intro taken
    obtain ⟨rfl, rfl⟩ := Prod.mk.inj (Option.some.inj taken)
    exact served.carried account rfl le_rfl (visits rfl) fun owed => by simp [arrived, Owes] at owed
  | case5 place lidarData baseTime arrived =>
    intro taken
    obtain ⟨_, _, same⟩ := Option.map_eq_some_iff.mp taken
    obtain ⟨rfl, rfl⟩ := Prod.mk.inj same
    exact served.carried account rfl le_rfl (visits rfl) fun owed => by simp [arrived, Owes] at owed
  | case6 place lidarData baseTime arrived =>
    intro taken
    obtain ⟨rfl, rfl⟩ := Prod.mk.inj (Option.some.inj taken)
    by_cases same : place = index
    · exact .inr (.inr (.inr same))
    · exact served.carried account (by simp [pushedAt, same]) le_rfl (visits rfl) fun owed => by
        simp [arrived, Owes] at owed
  | case7 place arrived =>
    intro taken
    obtain ⟨rfl, rfl⟩ := Prod.mk.inj (Option.some.inj taken)
    refine served.carried account rfl le_rfl (visits rfl) fun owed => ?_
    rw [arrived] at owed
    obtain rfl : place = index := owed
    by_cases empty : (threads.data place).queueIsEmpty
    · exact .inl (held.isEmpty_iff.mp empty)
    · exact .inr (.inr (.inr (by simp [empty, Owes])))
  | case8 arrived =>
    intro taken
    obtain ⟨rfl, rfl⟩ := Prod.mk.inj (Option.some.inj taken)
    rcases Nat.eq_zero_or_pos threads.pcdSemaphore with none | some
    · exact .inr (.inr (.inr (by simp [none, Owes])))
    · exact .inr (.inl some)
  | case9 arrived =>
    intro taken
    obtain ⟨rfl, rfl⟩ := Prod.mk.inj (Option.some.inj taken)
    exact .inr (.inl (Nat.succ_pos _))

/-- The publishing thread passes no lidar that is sampling and still has packets. -/
theorem distribute_ahead (held : ThreadsHeld (placeBits queueSize) threads)
    (taken : threads.distribute transferFormat = some (after, outputs)) (running : threads.requestExit = false)
    (sampling : (threads.lidars index).connectState = .sampling) (ahead : Ahead index threads.distributing) :
    pending (threads.data index) = [] ∨ Ahead index after.distributing := by
  have inside := index.isLt
  revert taken
  fun_cases LdsThreads.distribute transferFormat threads with
  | case1 arrived | case2 arrived => simp [arrived, Ahead] at ahead
  | case3 =>
    intro taken
    cases taken
  | case4 i arrived below lidar skipped =>
    intro taken
    obtain ⟨rfl, rfl⟩ := Prod.mk.inj (Option.some.inj taken)
    rw [arrived] at ahead
    by_cases same : i = index
    · subst same
      rcases skipped with idle | null
      · exact absurd sampling idle
      · exact .inl (held.pending_null null)
    · exact .inr (lt_of_le_of_ne ahead same)
  | case5 i arrived below =>
    intro taken
    obtain ⟨rfl, rfl⟩ := Prod.mk.inj (Option.some.inj taken)
    rw [arrived] at ahead
    exact .inr ahead
  | case6 i arrived below =>
    rw [arrived] at ahead
    exact absurd (lt_of_le_of_lt ahead inside) below
  | case7 place arrived done =>
    intro taken
    obtain ⟨rfl, rfl⟩ := Prod.mk.inj (Option.some.inj taken)
    rw [arrived] at ahead
    by_cases same : place = index
    · subst same
      simp only [running, Bool.false_eq_true, false_or] at done
      exact .inl (held.isEmpty_iff.mp done)
    · exact .inr (lt_of_le_of_ne ahead same)
  | case10 place arrived =>
    intro taken
    obtain ⟨rfl, rfl⟩ := Prod.mk.inj (Option.some.inj taken)
    rw [arrived] at ahead
    refine .inr ?_
    dsimp only
    split <;> exact ahead
  | case12 place arrived =>
    intro taken
    obtain ⟨_, _, same⟩ := Option.map_eq_some_iff.mp taken
    obtain ⟨rfl, rfl⟩ := Prod.mk.inj same
    rw [arrived] at ahead
    exact .inr ahead
  | case8 place arrived | case9 place arrived | case11 place arrived | case13 place packet arrived =>
    intro taken
    obtain ⟨rfl, rfl⟩ := Prod.mk.inj (Option.some.inj taken)
    rw [arrived] at ahead
    refine .inr ?_
    first | exact ahead | exact arrived ▸ ahead

theorem distribute_signals (taken : threads.distribute transferFormat = some (after, outputs)) :
    threads.pcdSemaphore ≤ after.pcdSemaphore ∨ after.distributing = .visiting 0 := by
  revert taken
  fun_cases LdsThreads.distribute transferFormat threads with
  | case2 =>
    intro taken
    obtain ⟨rfl, rfl⟩ := Prod.mk.inj (Option.some.inj taken)
    exact .inr rfl
  | case3 =>
    intro taken
    cases taken
  | case12 =>
    intro taken
    obtain ⟨_, _, same⟩ := Option.map_eq_some_iff.mp taken
    obtain ⟨rfl, rfl⟩ := Prod.mk.inj same
    exact .inl le_rfl
  | _ =>
    intro taken
    obtain ⟨rfl, rfl⟩ := Prod.mk.inj (Option.some.inj taken)
    exact .inl le_rfl

theorem pushedAt_of_concluded (silent : outputs.filterMap concluded = []) : outputs.filterMap (pushedAt index) = [] := by
  rw [List.filterMap_eq_nil_iff] at silent ⊢
  intro output member
  have none := silent output member
  cases output with
  | pushed => cases none
  | dropped | popped | published => rfl

theorem distribute_served (held : ThreadsHeld (placeBits queueSize) threads)
    (taken : threads.distribute transferFormat = some (after, outputs)) (running : threads.requestExit = false)
    (sampling : (threads.lidars index).connectState = .sampling) (served : Served index threads) :
    Served index after := by
  obtain ⟨same, silent⟩ := distribute_apart taken
  have account := (distribute_accounted held taken).account index
  have quiet : outputs.filterMap (pushedAt index) = [] := pushedAt_of_concluded silent
  rcases distribute_signals taken with signals | begun
  · apply served.carried account quiet signals
    · intro ahead
      rcases distribute_ahead held taken running sampling ahead with empty | still
      · rw [empty, quiet] at account
        exact .inl (List.append_eq_nil_iff.mp account.symm).2
      · exact .inr (.inr (.inl still))
    · exact fun owed => .inr (.inr (.inr (same ▸ owed)))
  · refine .inr (.inr (.inl ?_))
    rw [begun]
    exact Nat.zero_le _

@[simp] theorem connectState_setData (data : LidarDataQueue α) (place : Fin 32) :
    ((threads.setData place data).lidars index).connectState = (threads.lidars index).connectState := by
  simp only [setData, Function.update_apply]
  split
  next same => rw [same]
  next => rfl

theorem store_apart (taken : threads.store queueSize = some (after, outputs)) :
    after.requestExit = threads.requestExit ∧
      ∀ index, (after.lidars index).connectState = (threads.lidars index).connectState := by
  revert taken
  fun_cases LdsThreads.store queueSize threads with
  | case1 =>
    intro taken
    cases taken
  | case2 place lidarData baseTime arrived allocated =>
    intro taken
    obtain ⟨rfl, rfl⟩ := Prod.mk.inj (Option.some.inj taken)
    simp only [allocated]
    split
    · exact ⟨rfl, fun _ => connectState_setData ..⟩
    · exact ⟨rfl, fun _ => rfl⟩
  | case5 =>
    intro taken
    obtain ⟨_, _, same⟩ := Option.map_eq_some_iff.mp taken
    obtain ⟨rfl, rfl⟩ := Prod.mk.inj same
    exact ⟨rfl, fun _ => connectState_setData ..⟩
  | case6 =>
    intro taken
    obtain ⟨rfl, rfl⟩ := Prod.mk.inj (Option.some.inj taken)
    exact ⟨rfl, fun _ => connectState_setData ..⟩
  | _ =>
    intro taken
    obtain ⟨rfl, rfl⟩ := Prod.mk.inj (Option.some.inj taken)
    exact ⟨rfl, fun _ => rfl⟩

theorem distribute_keeps (taken : threads.distribute transferFormat = some (after, outputs)) :
    after.requestExit = threads.requestExit ∧
      ∀ index, (after.lidars index).connectState = (threads.lidars index).connectState := by
  revert taken
  fun_cases LdsThreads.distribute transferFormat threads with
  | case3 =>
    intro taken
    cases taken
  | case12 =>
    intro taken
    obtain ⟨_, _, same⟩ := Option.map_eq_some_iff.mp taken
    obtain ⟨rfl, rfl⟩ := Prod.mk.inj same
    exact ⟨rfl, fun _ => rfl⟩
  | case13 =>
    intro taken
    obtain ⟨rfl, rfl⟩ := Prod.mk.inj (Option.some.inj taken)
    exact ⟨rfl, fun _ => connectState_setData ..⟩
  | _ =>
    intro taken
    obtain ⟨rfl, rfl⟩ := Prod.mk.inj (Option.some.inj taken)
    exact ⟨rfl, fun _ => rfl⟩

/-- Sampling lasts and so does the request to exit. -/
theorem step_lasts {event : Event α}
    (taken : (ldsThreads queueSize transferFormat).step threads event = some (after, outputs)) :
    (threads.requestExit = true → after.requestExit = true) ∧
      ∀ index, (threads.lidars index).connectState = .sampling → (after.lidars index).connectState = .sampling := by
  cases event with
  | pushLidarData =>
    simp only [ldsThreads, LdsThreads.step] at taken
    split at taken
    next =>
      obtain ⟨rfl, rfl⟩ := Prod.mk.inj (Option.some.inj taken)
      exact ⟨id, fun _ => id⟩
    next => cases taken
  | store =>
    obtain ⟨same, equal⟩ := store_apart taken
    exact ⟨fun closed => same.trans closed, fun index sampling => (equal index).trans sampling⟩
  | distribute =>
    obtain ⟨same, equal⟩ := distribute_keeps taken
    exact ⟨fun closed => same.trans closed, fun index sampling => (equal index).trans sampling⟩
  | sampling place =>
    obtain ⟨rfl, rfl⟩ := Prod.mk.inj (Option.some.inj taken)
    refine ⟨id, fun index sampling => ?_⟩
    simp only [Function.update_apply]
    split
    · rfl
    · exact sampling
  | requestExit =>
    obtain ⟨rfl, rfl⟩ := Prod.mk.inj (Option.some.inj taken)
    exact ⟨fun _ => rfl, fun _ => id⟩

theorem step_served {event : Event α} (held : ThreadsHeld (placeBits queueSize) threads)
    (taken : (ldsThreads queueSize transferFormat).step threads event = some (after, outputs))
    (running : after.requestExit = false) (before : threads.requestExit = false)
    (sampling : (threads.lidars index).connectState = .sampling) (served : Served index threads) :
    Served index after := by
  cases event with
  | pushLidarData place lidarData baseTime =>
    simp only [ldsThreads, LdsThreads.step] at taken
    split at taken
    next idle =>
      obtain ⟨rfl, rfl⟩ := Prod.mk.inj (Option.some.inj taken)
      rcases served with empty | signal | ahead | owed
      · exact .inl empty
      · exact .inr (.inl signal)
      · exact .inr (.inr (.inl ahead))
      · simp [idle, Owes] at owed
    next => cases taken
  | store => exact store_served held taken served
  | distribute => exact distribute_served held taken before sampling served
  | sampling place =>
    have account := (step_accounted held taken).account index
    obtain ⟨rfl, rfl⟩ := Prod.mk.inj (Option.some.inj taken)
    exact served.carried account rfl le_rfl (fun ahead => .inr (.inr (.inl ahead))) fun owed => .inr (.inr (.inr owed))
  | requestExit =>
    obtain ⟨rfl, rfl⟩ := Prod.mk.inj (Option.some.inj taken)
    cases running

theorem store_concluded_served {packet : StoragePacket α} (taken : threads.store queueSize = some (after, outputs))
    (concludes : (index, packet) ∈ outputs.filterMap concluded) : Served index after := by
  revert taken
  fun_cases LdsThreads.store queueSize threads with
  | case1 =>
    intro taken
    cases taken
  | case3 =>
    intro taken
    obtain ⟨rfl, rfl⟩ := Prod.mk.inj (Option.some.inj taken)
    exact .inr (.inr (.inr trivial))
  | case5 =>
    intro taken
    obtain ⟨_, _, same⟩ := Option.map_eq_some_iff.mp taken
    obtain ⟨rfl, rfl⟩ := Prod.mk.inj same
    cases concludes
  | case6 place lidarData baseTime =>
    intro taken
    obtain ⟨rfl, rfl⟩ := Prod.mk.inj (Option.some.inj taken)
    obtain ⟨rfl, _⟩ := Prod.mk.inj (List.mem_singleton.mp concludes)
    exact .inr (.inr (.inr rfl))
  | _ =>
    intro taken
    obtain ⟨rfl, rfl⟩ := Prod.mk.inj (Option.some.inj taken)
    cases concludes

/-- A packet that is concluded leaves its lidar served. -/
theorem concluded_served {event : Event α} {packet : StoragePacket α}
    (taken : (ldsThreads queueSize transferFormat).step threads event = some (after, outputs))
    (concludes : (index, packet) ∈ outputs.filterMap concluded) : Served index after := by
  cases event with
  | pushLidarData =>
    simp only [ldsThreads, LdsThreads.step] at taken
    split at taken
    next =>
      obtain ⟨rfl, rfl⟩ := Prod.mk.inj (Option.some.inj taken)
      cases concludes
    next => cases taken
  | store => exact store_concluded_served taken concludes
  | distribute =>
    rw [(distribute_apart taken).2] at concludes
    cases concludes
  | sampling | requestExit =>
    obtain ⟨rfl, rfl⟩ := Prod.mk.inj (Option.some.inj taken)
    cases concludes

/-- A lidar that samples and is served until the node exits. -/
structure Attended (queueSize : BitVec 32) (index : Fin 32) (threads : LdsThreads α) : Prop where
  held : ThreadsHeld (placeBits queueSize) threads
  sampling : (threads.lidars index).connectState = .sampling
  served : threads.requestExit = false → Served index threads

theorem Attended.step {event : Event α} (attended : Attended queueSize index threads)
    (taken : (ldsThreads queueSize transferFormat).step threads event = some (after, outputs)) :
    Attended queueSize index after where
  held := (step_accounted attended.held taken).held
  sampling := (step_lasts taken).2 index attended.sampling
  served running := by
    have before : threads.requestExit = false := by
      by_contra closed
      rw [(step_lasts taken).1 (by simpa using closed)] at running
      cases running
    exact step_served attended.held taken running before attended.sampling (attended.served before)

theorem run_attended {past future : List (Entry (LdsThreads α) (Event α) (Output α))}
    {entry : Entry (LdsThreads α) (Event α) (Output α)} {packet : StoragePacket α}
    (run : (ldsThreads queueSize transferFormat).Run (past ++ entry :: future) threads)
    (sampling : (entry.before.lidars index).connectState = .sampling)
    (concludes : (index, packet) ∈ entry.outputs.filterMap concluded) : Attended queueSize index threads := by
  obtain ⟨earlier, taken, later⟩ := run.entry
  refine later.invariant (Attended queueSize index) ?_ fun _ _ step before => before.step step
  exact ⟨(step_accounted (run_held earlier) taken).held, (step_lasts taken).2 index sampling,
    fun _ => concluded_served taken concludes⟩

theorem Attended.rested (attended : Attended queueSize index threads) (running : threads.requestExit = false)
    (idle : threads.storing = .idle) (waits : threads.distributing = .waiting) (unsignalled : threads.pcdSemaphore = 0) :
    pending (threads.data index) = [] := by
  rcases attended.served running with empty | signal | ahead | owed
  · exact empty
  · omega
  · simp [waits, Ahead] at ahead
  · simp [idle, Owes] at owed

/-- Once a lidar samples and a packet of it has been concluded since, the publishing
thread does not come to wait for a signal over packets of this lidar. -/
theorem no_lost_wake_up {past future : List (Entry (LdsThreads α) (Event α) (Output α))}
    {entry : Entry (LdsThreads α) (Event α) (Output α)} {packet : StoragePacket α}
    (run : (ldsThreads queueSize transferFormat).Run (past ++ entry :: future) threads)
    (sampling : (entry.before.lidars index).connectState = .sampling)
    (concludes : (index, packet) ∈ entry.outputs.filterMap concluded) (running : threads.requestExit = false)
    (idle : threads.storing = .idle) (waits : threads.distributing = .waiting) (unsignalled : threads.pcdSemaphore = 0) :
    pending (threads.data index) = [] :=
  (run_attended run sampling concludes).rested running idle waits unsignalled

private theorem push_sampling {history : List (Entry (LdsThreads Int) (Event Int) (Output Int))}
    {threads : LdsThreads Int} {packet : StoragePacket Int}
    (path : (ldsThreads 10 1).Path sampled history threads) (pushed : .pushed 0 packet ∈ history.flatMap Entry.outputs) :
    ∃ past entry future, (ldsThreads 10 1).Run (past ++ entry :: future) threads ∧
      (entry.before.lidars 0).connectState = .sampling ∧ (0, packet) ∈ entry.outputs.filterMap concluded := by
  obtain ⟨entry, member, output⟩ := List.mem_flatMap.mp pushed
  obtain ⟨past, future, rfl, reached, _⟩ := path.mem member
  have sampling : (entry.before.lidars 0).connectState = .sampling :=
    reached.invariant (fun threads => (threads.lidars 0).connectState = .sampling) rfl fun _ _ taken =>
      (step_lasts taken).2 0
  have run := sampled_first.append path
  rw [← List.append_assoc] at run
  exact ⟨_, entry, future, run, sampling, List.mem_filterMap.mpr ⟨_, output, rfl⟩⟩

theorem no_lost_wake_up_one : ∃ history, ∃ threads : LdsThreads Int, (ldsThreads 10 1).Run history threads ∧
    threads.distributing = .waiting ∧ threads.pcdSemaphore = 0 ∧ pending (threads.data 0) = [] := by
  obtain ⟨history, threads, path, outputs, running, idle, waits, unsignalled⟩ := one_delivered
  have pushed : .pushed 0 (.of onePoint 70) ∈ history.flatMap Entry.outputs := by simp [outputs]
  obtain ⟨past, entry, future, run, sampling, concludes⟩ := push_sampling path pushed
  exact ⟨_, threads, run, waits, unsignalled, no_lost_wake_up run sampling concludes running idle waits unsignalled⟩

end FlightStack.Proofs
