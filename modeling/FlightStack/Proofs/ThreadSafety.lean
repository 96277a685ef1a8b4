import FlightStack.Proofs.WakeUp

/-! What the two threads never do to each other, and what becomes of a format that
the publishing thread takes no packets for. -/

namespace FlightStack.Proofs
open LdsThreads
variable {α : Type} {index : Fin 32} {queueSize : BitVec 32} {transferFormat : Int} {threads after : LdsThreads α}
  {outputs : List (Output α)} {history : List (Entry (LdsThreads α) (Event α) (Output α))}

theorem store_goes_on (held : ThreadsHeld (placeBits queueSize) threads) (busy : threads.storing ≠ .idle) :
    (threads.store queueSize).isSome := by
  fun_cases LdsThreads.store queueSize threads with
  | case1 idle => exact absurd idle busy
  | case5 place lidarData baseTime arrived =>
    have ready := (held place).storing
    rw [arrived] at ready
    obtain ⟨usable, room⟩ := ready rfl
    obtain ⟨_, written, _⟩ := usable.writePacket room (.of lidarData baseTime)
    rw [written]
    rfl
  | _ => rfl

theorem distribute_goes_on (held : ThreadsHeld (placeBits queueSize) threads)
    (signalled : threads.distributing = .waiting → 0 < threads.pcdSemaphore) :
    (threads.distribute transferFormat).isSome := by
  fun_cases LdsThreads.distribute transferFormat threads with
  | case3 arrived none => exact absurd (signalled arrived) none
  | case12 place arrived some =>
    obtain ⟨packet, found, _⟩ := (held place).front some
    rw [found]
    rfl
  | _ => rfl

/-- The place written and the place read are apart where there is room and a packet. -/
theorem Usable.apart {queue : LidarDataQueue α} {bits : Nat} (usable : Usable queue bits)
    (room : (pending queue).length < 2 ^ bits) (some : ¬ queue.queueIsEmpty) :
    queue.wrIdx &&& queue.mask ≠ queue.rdIdx &&& queue.mask := by
  have used : 0 < (ring queue).used := by
    rw [← usable.length_pending]
    exact List.length_pos_iff.mpr (usable.isEmpty_iff.not.mp some)
  have different := usable.sound.cell_ne queue.rdIdx used (usable.room room)
  intro same
  apply different
  rw [← show queue.wrIdx = queue.rdIdx + BitVec.ofNat 32 (ring queue).used from (ring queue).back_eq]
  rw [BitVec.add_zero]
  exact congrArg BitVec.toNat same.symm

/-- Each access of either thread is to packets that are there. A thread only stops
where it has nothing to do, and never writes the packet that the other one copies. -/
theorem accesses_safe (run : (ldsThreads queueSize transferFormat).Run history threads) :
    ((threads.store queueSize).isSome ↔ threads.storing ≠ .idle) ∧
      ((threads.distribute transferFormat).isSome ↔ (threads.distributing = .waiting → 0 < threads.pcdSemaphore)) ∧
      ∀ index lidarData baseTime, threads.storing = .writing index lidarData baseTime →
        ¬ (threads.data index).queueIsEmpty →
          (threads.data index).wrIdx &&& (threads.data index).mask ≠
            (threads.data index).rdIdx &&& (threads.data index).mask := by
  have held := run_held run
  refine ⟨⟨?_, store_goes_on held⟩, ⟨?_, distribute_goes_on held⟩, ?_⟩
  · intro goes idle
    simp [LdsThreads.store, idle] at goes
  · intro goes waits
    simpa [LdsThreads.distribute, waits] using goes
  · intro index lidarData baseTime arrived some
    have ready := (held index).storing
    rw [arrived] at ready
    obtain ⟨usable, room⟩ := ready rfl
    exact usable.apart room some

theorem accesses_safe_one : ∃ threads : LdsThreads Int, threads.storing = .idle ∧ (threads.distribute 1).isSome := by
  obtain ⟨history, threads, path, _, _, idle, begins, _⟩ := one_stored
  refine ⟨threads, idle, (accesses_safe (sampled_first.append path)).2.1.mpr fun waits => ?_⟩
  rw [begins] at waits
  cases waits

/-- The publishing thread is at a queue with packets until the node exits. -/
structure Spinning (queueSize : BitVec 32) (index : Fin 32) (threads : LdsThreads α) : Prop where
  held : ThreadsHeld (placeBits queueSize) threads
  polls : threads.requestExit = false → threads.distributing = .polling index ∧ pending (threads.data index) ≠ []

theorem store_leaves (taken : threads.store queueSize = some (after, outputs)) :
    after.distributing = threads.distributing ∧ ∀ index, outputs.filterMap (poppedAt index) = [] := by
  revert taken
  fun_cases LdsThreads.store queueSize threads with
  | case1 =>
    intro taken
    cases taken
  | case2 place lidarData baseTime arrived allocated =>
    intro taken
    obtain ⟨rfl, rfl⟩ := Prod.mk.inj (Option.some.inj taken)
    refine ⟨?_, fun _ => rfl⟩
    simp only [allocated]
    split <;> rfl
  | case5 =>
    intro taken
    obtain ⟨_, _, same⟩ := Option.map_eq_some_iff.mp taken
    obtain ⟨rfl, rfl⟩ := Prod.mk.inj same
    exact ⟨rfl, fun _ => rfl⟩
  | _ =>
    intro taken
    obtain ⟨rfl, rfl⟩ := Prod.mk.inj (Option.some.inj taken)
    exact ⟨rfl, fun _ => rfl⟩

theorem distribute_spins (refuses : ¬ takesPackets transferFormat) (running : threads.requestExit = false)
    (polls : threads.distributing = .polling index) (some : ¬ (threads.data index).queueIsEmpty) :
    threads.distribute transferFormat = .some (threads, []) := by
  simp [LdsThreads.distribute, polls, running, some, refuses]

theorem Spinning.step {event : Event α} (refuses : ¬ takesPackets transferFormat) (spinning : Spinning queueSize index threads)
    (taken : (ldsThreads queueSize transferFormat).step threads event = some (after, outputs)) :
    Spinning queueSize index after := by
  refine ⟨(step_accounted spinning.held taken).held, fun running => ?_⟩
  have before : threads.requestExit = false := by
    by_contra closed
    rw [(step_lasts taken).1 (by simpa using closed)] at running
    cases running
  obtain ⟨polls, some⟩ := spinning.polls before
  have account := (step_accounted spinning.held taken).account index
  have grown (none : outputs.filterMap (poppedAt index) = []) : pending (after.data index) ≠ [] := by
    rw [none, List.nil_append] at account
    rw [← account]
    simp [some]
  cases event with
  | pushLidarData =>
    simp only [ldsThreads, LdsThreads.step] at taken
    split at taken
    next =>
      obtain ⟨rfl, rfl⟩ := Prod.mk.inj (Option.some.inj taken)
      exact ⟨polls, grown rfl⟩
    next => cases taken
  | store =>
    obtain ⟨same, none⟩ := store_leaves taken
    exact ⟨same.trans polls, grown (none index)⟩
  | distribute =>
    have nonempty := spinning.held.isEmpty_iff.not.mpr some
    obtain ⟨rfl, rfl⟩ := Prod.mk.inj
      (Option.some.inj ((distribute_spins refuses before polls nonempty).symm.trans taken))
    exact ⟨polls, some⟩
  | sampling | requestExit =>
    obtain ⟨rfl, rfl⟩ := Prod.mk.inj (Option.some.inj taken)
    exact ⟨polls, grown rfl⟩

/-- Where the publishing thread takes no packet out of a queue. -/
def Away : Distributing α → Prop
  | .publishing _ | .popping _ | .copied _ _ => False
  | _ => True

theorem distribute_away (refuses : ¬ takesPackets transferFormat) (away : Away threads.distributing)
    (taken : threads.distribute transferFormat = some (after, outputs)) : Away after.distributing ∧ outputs = [] := by
  revert taken
  fun_cases LdsThreads.distribute transferFormat threads with
  | case3 =>
    intro taken
    cases taken
  | case8 place arrived more takes => exact absurd takes refuses
  | case10 place arrived | case11 place arrived | case12 place arrived | case13 place packet arrived =>
    rw [arrived] at away
    exact away.elim
  | case1 =>
    intro taken
    obtain ⟨rfl, rfl⟩ := Prod.mk.inj (Option.some.inj taken)
    refine ⟨?_, rfl⟩
    dsimp only
    split <;> trivial
  | case9 =>
    intro taken
    obtain ⟨rfl, rfl⟩ := Prod.mk.inj (Option.some.inj taken)
    exact ⟨away, rfl⟩
  | _ =>
    intro taken
    obtain ⟨rfl, rfl⟩ := Prod.mk.inj (Option.some.inj taken)
    exact ⟨trivial, rfl⟩

theorem step_away {event : Event α} (refuses : ¬ takesPackets transferFormat) (away : Away threads.distributing)
    (taken : (ldsThreads queueSize transferFormat).step threads event = some (after, outputs)) :
    Away after.distributing ∧ ∀ index, outputs.filterMap (poppedAt index) = [] := by
  cases event with
  | pushLidarData =>
    simp only [ldsThreads, LdsThreads.step] at taken
    split at taken
    next =>
      obtain ⟨rfl, rfl⟩ := Prod.mk.inj (Option.some.inj taken)
      exact ⟨away, fun _ => rfl⟩
    next => cases taken
  | store =>
    refine ⟨?_, (store_leaves taken).2⟩
    have same : after.distributing = threads.distributing := (store_leaves taken).1
    rwa [same]
  | distribute =>
    obtain ⟨kept, rfl⟩ := distribute_away refuses away taken
    exact ⟨kept, fun _ => rfl⟩
  | sampling | requestExit =>
    obtain ⟨rfl, rfl⟩ := Prod.mk.inj (Option.some.inj taken)
    exact ⟨away, fun _ => rfl⟩

theorem path_away (refuses : ¬ takesPackets transferFormat) {start : LdsThreads α} (away : Away start.distributing)
    (path : (ldsThreads queueSize transferFormat).Path start history threads) :
    Away threads.distributing ∧ ∀ index, (history.flatMap Entry.outputs).filterMap (poppedAt index) = [] := by
  induction path with
  | refl => exact ⟨away, fun _ => rfl⟩
  | snoc _ taken ih =>
    obtain ⟨kept, silent⟩ := step_away refuses ih.1 taken
    refine ⟨kept, fun index => ?_⟩
    rw [List.flatMap_append, List.filterMap_append, ih.2, List.flatMap_singleton, silent]
    rfl

/-- With a format it takes no packets for, the publishing thread pops none in any run.
Once it polls a queue that has packets it polls that queue, for nothing, until the
node exits. -/
theorem other_formats_stall (refuses : ¬ takesPackets transferFormat)
    (run : (ldsThreads queueSize transferFormat).Run history threads) :
    (∀ index, (history.flatMap Entry.outputs).filterMap (poppedAt index) = []) ∧
      ∀ index, threads.requestExit = false → threads.distributing = .polling index →
        ¬ (threads.data index).queueIsEmpty → ∀ later final,
          (ldsThreads queueSize transferFormat).Path threads later final → final.requestExit = false →
            final.distributing = .polling index ∧ pending (threads.data index) <+: pending (final.data index) := by
  obtain ⟨away, silent⟩ := path_away refuses (show Away ({} : LdsThreads α).distributing from trivial) run
  refine ⟨silent, fun index running polls some later final path still => ?_⟩
  have held := run_held run
  have spinning : Spinning queueSize index threads := ⟨held, fun _ => ⟨polls, held.isEmpty_iff.not.mp some⟩⟩
  have after := path.invariant (Spinning queueSize index) spinning fun _ _ taken before => before.step refuses taken
  have account := path_accounted held path index
  rw [(path_away refuses away path).2, List.nil_append] at account
  exact ⟨(after.polls still).1, _, account⟩

/-- `kPclPxyziMsg` -/
theorem other_formats_stall_pcl : ∃ history threads, (ldsThreads 10 2).Run history threads ∧
    (history.flatMap Entry.outputs).filterMap (pushedAt 0) = [.of onePoint 70] ∧
    threads.distributing = .polling 0 ∧ (history.flatMap Entry.outputs).filterMap (poppedAt 0) = [] := by
  have recorded : (ldsThreads 10 2).record {} (.sampling 0 :: .pushLidarData 0 onePoint 70 ::
    (List.replicate 7 .store ++ List.replicate 42 .distribute)) = some (_, _) := rfl
  exact ⟨_, _, Machine.path_of_record recorded, rfl, rfl,
    (other_formats_stall (by decide) (Machine.path_of_record recorded)).1 0⟩

end FlightStack.Proofs
