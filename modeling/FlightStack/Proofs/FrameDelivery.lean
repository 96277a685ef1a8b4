import FlightStack.LdsThreads
import FlightStack.Proofs.QueueContents

/-! Whatever turns the two threads take, the queue of each lidar hands its packets
over as they were stored, each once and in order. -/

namespace FlightStack.Proofs
open LdsThreads
variable {α : Type} {bits : Nat} {index : Fin 32} {queue : LidarDataQueue α}

/-- What the storing thread relies on about a queue it is at. -/
def StoringHeld (bits : Nat) (index : Fin 32) (queue : LidarDataQueue α) : Storing α → Prop
  | .testing place _ _ | .stored place => place = index → Usable queue bits
  | .writing place _ _ => place = index → Usable queue bits ∧ (pending queue).length < 2 ^ bits
  | .counting place lidarData baseTime => place = index → Usable queue bits ∧ (pending queue).length < 2 ^ bits ∧
      (ring queue).cells[(ring queue).cell (ring queue).back]? = some (.of lidarData baseTime)
  | _ => True

/-- What the publishing thread relies on about a queue it is at. -/
def DistributingHeld (index : Fin 32) (queue : LidarDataQueue α) : Distributing α → Prop
  | .copied place packet => place = index → ∃ rest, pending queue = packet :: rest
  | _ => True

structure QueueHeld (bits : Nat) (index : Fin 32) (queue : LidarDataQueue α) (storing : Storing α)
    (distributing : Distributing α) : Prop where
  kept : queue = {} ∨ Usable queue bits
  storing : StoringHeld bits index queue storing
  distributing : DistributingHeld index queue distributing

/-- No thread's queue changes under it but by what the other thread may do. -/
def ThreadsHeld (bits : Nat) (threads : LdsThreads α) : Prop :=
  ∀ index, QueueHeld bits index (threads.data index) threads.storing threads.distributing

theorem pending_fresh : pending ({} : LidarDataQueue α) = [] := Ring.contents_eq_nil (Ring.used_eq_zero_iff.mpr rfl)

theorem initial_held : ThreadsHeld bits ({} : LdsThreads α) := fun _ => ⟨.inl rfl, trivial, trivial⟩

@[simp] theorem data_setData (threads : LdsThreads α) (index other : Fin 32) (data : LidarDataQueue α) :
    (threads.setData index data).data other = if other = index then data else threads.data other := by
  simp only [setData, LdsThreads.data, Function.update_apply]
  split
  next same => rfl
  next => rfl

namespace QueueHeld
variable {storing : Storing α} {distributing : Distributing α}

theorem elsewhere (held : QueueHeld bits index queue storing distributing) {next : Storing α}
    (away : StoringHeld bits index queue next) : QueueHeld bits index queue next distributing :=
  { held with storing := away }

theorem fresh (held : QueueHeld bits index queue storing distributing) (null : queue.storagePacket.isNone) :
    queue = {} := by
  rcases held.kept with same | usable
  · exact same
  · simp [Option.isSome_iff_ne_none.mp usable.allocated] at null

theorem present (held : QueueHeld bits index queue storing distributing) (allocated : ¬ queue.storagePacket.isNone) :
    Usable queue bits := by
  rcases held.kept with rfl | usable
  · exact absurd rfl allocated
  · exact usable

theorem usable (held : QueueHeld bits index queue storing distributing) (some : pending queue ≠ []) :
    Usable queue bits := by
  rcases held.kept with rfl | usable
  · exact absurd pending_fresh some
  · exact usable

theorem front (held : QueueHeld bits index queue storing distributing) (nonempty : ¬ queue.queueIsEmpty) :
    ∃ packet, queue.frontPacket = some packet ∧ pending queue = packet :: pending queue.queuePopUpdate := by
  rcases held.kept with rfl | usable
  · exact absurd rfl nonempty
  · exact usable.frontPacket (usable.isEmpty_iff.not.mp nonempty)

/-- A pop does not disturb the storing thread. -/
theorem popped (held : QueueHeld bits index queue storing distributing) (some : pending queue ≠ []) :
    QueueHeld bits index queue.queuePopUpdate storing (.publishing index) := by
  have usable := held.usable some
  have after := usable.queuePopUpdate some
  obtain ⟨packet, _, split⟩ := usable.frontPacket some
  have fewer : (pending queue.queuePopUpdate).length < (pending queue).length := by simp [split]
  refine ⟨.inr after, ?_, trivial⟩
  have before := held.storing
  cases storing with
  | testing | stored => exact fun _ => after
  | writing =>
    intro same
    obtain ⟨_, room⟩ := before same
    exact ⟨after, fewer.trans room⟩
  | counting =>
    intro same
    obtain ⟨_, room, written⟩ := before same
    exact ⟨after, fewer.trans room, written⟩
  | idle | entered | getCount | signal => trivial

/-- Nor does the storing thread disturb the publishing thread. -/
theorem allocated (held : QueueHeld bits index queue storing distributing) {made : LidarDataQueue α}
    (null : queue.storagePacket.isNone) (usable : Usable made bits) {next : Storing α}
    (ready : StoringHeld bits index made next) : QueueHeld bits index made next distributing := by
  refine ⟨.inr usable, ready, ?_⟩
  have before := held.distributing
  cases distributing with
  | copied =>
    intro same
    obtain ⟨_, split⟩ := before same
    rw [held.fresh null, pending_fresh] at split
    cases split
  | _ => trivial

theorem appended (held : QueueHeld bits index queue storing distributing) {made : LidarDataQueue α}
    {more : List (StoragePacket α)} (usable : Usable made bits) (extended : pending made = pending queue ++ more)
    {next : Storing α} (ready : StoringHeld bits index made next) : QueueHeld bits index made next distributing := by
  refine ⟨.inr usable, ready, ?_⟩
  have before := held.distributing
  cases distributing with
  | copied =>
    intro same
    obtain ⟨rest, split⟩ := before same
    exact ⟨rest ++ more, by rw [extended, split, List.cons_append]⟩
  | _ => trivial

end QueueHeld

def pushedAt (index : Fin 32) : Output α → Option (StoragePacket α)
  | .pushed place packet => if place = index then some packet else none
  | _ => none

def poppedAt (index : Fin 32) : Output α → Option (StoragePacket α)
  | .popped place packet => if place = index then some packet else none
  | _ => none

/-- A step keeps the account of every queue: what was in it and is pushed is popped or is in it. -/
structure Accounted (bits : Nat) (before : LdsThreads α) (outputs : List (Output α)) (after : LdsThreads α) : Prop where
  held : ThreadsHeld bits after
  account : ∀ index, pending (before.data index) ++ outputs.filterMap (pushedAt index) =
    outputs.filterMap (poppedAt index) ++ pending (after.data index)

variable {queueSize : BitVec 32} {transferFormat : Int} {threads after : LdsThreads α} {outputs : List (Output α)}

/-- A step that leaves all queues as they are has to be ready for where it goes. -/
theorem Accounted.moved (held : ThreadsHeld bits threads) (same : ∀ index, after.data index = threads.data index)
    (ready : ∀ index, StoringHeld bits index (threads.data index) after.storing)
    (shown : ∀ index, DistributingHeld index (threads.data index) after.distributing)
    (silent : ∀ index, outputs.filterMap (pushedAt index) = [] ∧ outputs.filterMap (poppedAt index) = []) :
    Accounted bits threads outputs after := by
  refine ⟨fun index => ?_, fun index => ?_⟩
  · rw [same]
    exact ⟨(held index).kept, ready index, shown index⟩
  · rw [(silent index).1, (silent index).2, same, List.append_nil, List.nil_append]

/-- A step that changes one queue has only that one to account for. -/
theorem Accounted.changed (held : ThreadsHeld bits threads) {data : LidarDataQueue α}
    (becomes : ∀ other, after.data other = if other = index then data else threads.data other)
    (here : QueueHeld bits index data after.storing after.distributing)
    (ready : ∀ other, index ≠ other → StoringHeld bits other (threads.data other) after.storing)
    (shown : ∀ other, index ≠ other → DistributingHeld other (threads.data other) after.distributing)
    (silent : ∀ other, index ≠ other → outputs.filterMap (pushedAt other) = [] ∧ outputs.filterMap (poppedAt other) = [])
    (account : pending (threads.data index) ++ outputs.filterMap (pushedAt index) =
      outputs.filterMap (poppedAt index) ++ pending data) : Accounted bits threads outputs after := by
  refine ⟨fun other => ?_, fun other => ?_⟩
  · by_cases same : other = index
    · subst same
      rwa [becomes, if_pos rfl]
    · rw [becomes, if_neg same]
      exact ⟨(held other).kept, ready other (Ne.symm same), shown other (Ne.symm same)⟩
  · by_cases same : other = index
    · subst same
      rwa [becomes, if_pos rfl]
    · rw [becomes, if_neg same, (silent other (Ne.symm same)).1, (silent other (Ne.symm same)).2, List.append_nil,
        List.nil_append]

theorem store_accounted (held : ThreadsHeld (placeBits queueSize) threads)
    (taken : threads.store queueSize = some (after, outputs)) :
    Accounted (placeBits queueSize) threads outputs after := by
  have shown index := (held index).distributing
  unfold LdsThreads.store at taken
  cases place : threads.storing with
  | idle => simp [place] at taken
  | entered index lidarData baseTime =>
    simp only [place, Option.some.injEq, Prod.mk.injEq] at taken
    obtain ⟨rfl, rfl⟩ := taken
    split
    next fresh =>
      have made : Usable (.initQueue queueSize : LidarDataQueue α) _ := usable_initQueue queueSize
      refine .changed held (data_setData threads index · _) ((held index).allocated fresh made fun _ => made) ?_ ?_ ?_ ?_
      · exact fun _ different same => absurd same different
      · exact fun other _ => shown other
      · exact fun _ _ => ⟨rfl, rfl⟩
      · rw [(held index).fresh fresh, pending_fresh, pending_initQueue]
        rfl
    next present =>
      refine .moved held (fun _ => rfl) (fun other same => ?_) shown fun _ => ⟨rfl, rfl⟩
      exact same ▸ (held index).present present
  | testing index lidarData baseTime =>
    simp only [place] at taken
    split at taken
    next full =>
      obtain ⟨rfl, rfl⟩ := Prod.mk.inj (Option.some.inj taken)
      exact .moved held (fun _ => rfl) (fun _ => trivial) shown fun _ => ⟨rfl, rfl⟩
    next room =>
      obtain ⟨rfl, rfl⟩ := Prod.mk.inj (Option.some.inj taken)
      refine .moved held (fun _ => rfl) (fun other same => ?_) shown fun _ => ⟨rfl, rfl⟩
      subst same
      have before := (held index).storing
      rw [place] at before
      have usable := before rfl
      exact ⟨usable, lt_of_le_of_ne usable.length_pending_le (usable.isFull_iff.not.mp room)⟩
  | writing index lidarData baseTime =>
    simp only [place] at taken
    obtain ⟨data, done, same⟩ := Option.map_eq_some_iff.mp taken
    obtain ⟨rfl, rfl⟩ := Prod.mk.inj same
    have before := (held index).storing
    rw [place] at before
    obtain ⟨usable, room⟩ := before rfl
    obtain ⟨written, wrote, kept, unseen, filled⟩ := usable.writePacket room (.of lidarData baseTime)
    obtain rfl := Option.some.inj (done.symm.trans wrote)
    refine .changed held (data_setData threads index · _) ?_ ?_ ?_ ?_ ?_
    · exact (held index).appended kept (by rw [unseen, List.append_nil]) fun _ => ⟨kept, by rwa [unseen], filled⟩
    · exact fun _ different same => absurd same different
    · exact fun other _ => shown other
    · exact fun _ _ => ⟨rfl, rfl⟩
    · rw [unseen]
      exact List.append_nil _
  | counting index lidarData baseTime =>
    simp only [place] at taken
    obtain ⟨rfl, rfl⟩ := Prod.mk.inj (Option.some.inj taken)
    have before := (held index).storing
    rw [place] at before
    obtain ⟨usable, room, filled⟩ := before rfl
    obtain ⟨kept, appended⟩ := usable.advanceWrite room filled
    refine .changed held (data_setData threads index · _) ((held index).appended kept appended fun _ => kept) ?_ ?_ ?_ ?_
    · exact fun _ different same => absurd same different
    · exact fun other _ => shown other
    · exact fun other different => ⟨by simp [pushedAt, different], rfl⟩
    · simp [appended, pushedAt, poppedAt]
  | stored index =>
    simp only [place] at taken
    obtain ⟨rfl, rfl⟩ := Prod.mk.inj (Option.some.inj taken)
    refine .moved held (fun _ => rfl) (fun _ => ?_) shown fun _ => ⟨rfl, rfl⟩
    dsimp only
    split <;> trivial
  | getCount =>
    simp only [place] at taken
    obtain ⟨rfl, rfl⟩ := Prod.mk.inj (Option.some.inj taken)
    refine .moved held (fun _ => rfl) (fun _ => ?_) shown fun _ => ⟨rfl, rfl⟩
    dsimp only
    split <;> trivial
  | signal =>
    simp only [place] at taken
    obtain ⟨rfl, rfl⟩ := Prod.mk.inj (Option.some.inj taken)
    exact .moved held (fun _ => rfl) (fun _ => trivial) shown fun _ => ⟨rfl, rfl⟩

theorem distribute_accounted (held : ThreadsHeld bits threads)
    (taken : threads.distribute transferFormat = some (after, outputs)) : Accounted bits threads outputs after := by
  have ready index := (held index).storing
  unfold LdsThreads.distribute at taken
  cases place : threads.distributing with
  | entered =>
    simp only [place] at taken
    obtain ⟨rfl, rfl⟩ := Prod.mk.inj (Option.some.inj taken)
    refine .moved held (fun _ => rfl) ready (fun _ => ?_) fun _ => ⟨rfl, rfl⟩
    dsimp only
    split <;> trivial
  | waiting =>
    simp only [place] at taken
    split at taken
    next =>
      obtain ⟨rfl, rfl⟩ := Prod.mk.inj (Option.some.inj taken)
      exact .moved held (fun _ => rfl) ready (fun _ => trivial) fun _ => ⟨rfl, rfl⟩
    next => cases taken
  | visiting i =>
    simp only [place] at taken
    split at taken
    next =>
      split at taken
      all_goals
        obtain ⟨rfl, rfl⟩ := Prod.mk.inj (Option.some.inj taken)
        exact .moved held (fun _ => rfl) ready (fun _ => trivial) fun _ => ⟨rfl, rfl⟩
    next =>
      obtain ⟨rfl, rfl⟩ := Prod.mk.inj (Option.some.inj taken)
      exact .moved held (fun _ => rfl) ready (fun _ => trivial) fun _ => ⟨rfl, rfl⟩
  | polling index =>
    simp only [place] at taken
    split at taken
    next =>
      obtain ⟨rfl, rfl⟩ := Prod.mk.inj (Option.some.inj taken)
      exact .moved held (fun _ => rfl) ready (fun _ => trivial) fun _ => ⟨rfl, rfl⟩
    next =>
      split at taken
      next =>
        obtain ⟨rfl, rfl⟩ := Prod.mk.inj (Option.some.inj taken)
        exact .moved held (fun _ => rfl) ready (fun _ => trivial) fun _ => ⟨rfl, rfl⟩
      next =>
        obtain ⟨rfl, rfl⟩ := Prod.mk.inj (Option.some.inj taken)
        exact .moved held (fun _ => rfl) ready (fun index => (held index).distributing) fun _ => ⟨rfl, rfl⟩
  | publishing index =>
    simp only [place] at taken
    obtain ⟨rfl, rfl⟩ := Prod.mk.inj (Option.some.inj taken)
    refine .moved held (fun _ => rfl) ready (fun _ => ?_) fun _ => ⟨rfl, rfl⟩
    dsimp only
    split <;> trivial
  | popping index =>
    simp only [place] at taken
    split at taken
    next =>
      obtain ⟨rfl, rfl⟩ := Prod.mk.inj (Option.some.inj taken)
      exact .moved held (fun _ => rfl) ready (fun _ => trivial) fun _ => ⟨rfl, rfl⟩
    next nonempty =>
      obtain ⟨packet, copied, same⟩ := Option.map_eq_some_iff.mp taken
      obtain ⟨rfl, rfl⟩ := Prod.mk.inj same
      refine .moved held (fun _ => rfl) ready (fun other same => ?_) fun _ => ⟨rfl, rfl⟩
      subst same
      obtain ⟨first, found, split⟩ := (held index).front nonempty
      obtain rfl := Option.some.inj (copied.symm.trans found)
      exact ⟨_, split⟩
  | copied index packet =>
    simp only [place] at taken
    obtain ⟨rfl, rfl⟩ := Prod.mk.inj (Option.some.inj taken)
    have before := (held index).distributing
    rw [place] at before
    obtain ⟨rest, split⟩ := before rfl
    have some : pending (threads.data index) ≠ [] := by simp [split]
    obtain ⟨_, _, divided⟩ := ((held index).usable some).frontPacket some
    obtain ⟨rfl, equal⟩ := List.cons_eq_cons.mp (split.symm.trans divided)
    refine .changed held (data_setData threads index · _) ((held index).popped some) ?_ ?_ ?_ ?_
    · exact fun other _ => ready other
    · exact fun _ _ => trivial
    · intro other different
      split <;> simp [pushedAt, poppedAt, different]
    · rw [split, equal]
      split <;> simp [List.filterMap_cons, pushedAt, poppedAt]

theorem step_accounted {event : Event α} (held : ThreadsHeld (placeBits queueSize) threads)
    (taken : (ldsThreads queueSize transferFormat).step threads event = some (after, outputs)) :
    Accounted (placeBits queueSize) threads outputs after := by
  have shown index := (held index).distributing
  cases event with
  | pushLidarData index lidarData baseTime =>
    simp only [ldsThreads, LdsThreads.step] at taken
    split at taken
    next =>
      obtain ⟨rfl, rfl⟩ := Prod.mk.inj (Option.some.inj taken)
      exact .moved held (fun _ => rfl) (fun _ => trivial) shown fun _ => ⟨rfl, rfl⟩
    next => cases taken
  | store => exact store_accounted held taken
  | distribute => exact distribute_accounted held taken
  | sampling index =>
    obtain ⟨rfl, rfl⟩ := Prod.mk.inj (Option.some.inj taken)
    refine .moved held (fun other => ?_) (fun other => (held other).storing) shown fun _ => ⟨rfl, rfl⟩
    simp only [LdsThreads.data, Function.update_apply]
    split
    next same => exact same ▸ rfl
    next => rfl
  | requestExit =>
    obtain ⟨rfl, rfl⟩ := Prod.mk.inj (Option.some.inj taken)
    exact .moved held (fun _ => rfl) (fun other => (held other).storing) shown fun _ => ⟨rfl, rfl⟩

/-- What the storing thread is asked to store. -/
def asked : Event α → Option (Fin 32 × StoragePacket α)
  | .pushLidarData index lidarData baseTime => some (index, .of lidarData baseTime)
  | _ => none

def concluded : Output α → Option (Fin 32 × StoragePacket α)
  | .pushed index packet | .dropped index packet => some (index, packet)
  | _ => none

def underway : Storing α → List (Fin 32 × StoragePacket α)
  | .entered index lidarData baseTime | .testing index lidarData baseTime | .writing index lidarData baseTime
  | .counting index lidarData baseTime => [(index, .of lidarData baseTime)]
  | _ => []

def publishedAt (index : Fin 32) : Output α → Option (StoragePacket α)
  | .published place packet => if place = index then some packet else none
  | _ => none

theorem store_concluded (taken : threads.store queueSize = some (after, outputs)) :
    underway threads.storing = outputs.filterMap concluded ++ underway after.storing := by
  revert taken
  fun_cases LdsThreads.store queueSize threads with
  | case1 =>
    intro taken
    cases taken
  | case5 index lidarData baseTime place =>
    intro taken
    obtain ⟨data, _, same⟩ := Option.map_eq_some_iff.mp taken
    obtain ⟨rfl, rfl⟩ := Prod.mk.inj same
    simp [place, underway]
  | case2 | case3 | case4 | case6 | case9 =>
    intro taken
    obtain ⟨rfl, rfl⟩ := Prod.mk.inj (Option.some.inj taken)
    simp [*, underway, concluded]
  | case7 | case8 =>
    intro taken
    obtain ⟨rfl, rfl⟩ := Prod.mk.inj (Option.some.inj taken)
    dsimp only
    split <;> simp [*, underway]

/-- The publishing thread leaves the storing thread where it is. -/
theorem distribute_apart (taken : threads.distribute transferFormat = some (after, outputs)) :
    after.storing = threads.storing ∧ outputs.filterMap concluded = [] := by
  revert taken
  fun_cases LdsThreads.distribute transferFormat threads with
  | case3 =>
    intro taken
    cases taken
  | case12 =>
    intro taken
    obtain ⟨packet, _, same⟩ := Option.map_eq_some_iff.mp taken
    obtain ⟨rfl, rfl⟩ := Prod.mk.inj same
    exact ⟨rfl, rfl⟩
  | case13 index packet =>
    intro taken
    obtain ⟨rfl, rfl⟩ := Prod.mk.inj (Option.some.inj taken)
    refine ⟨rfl, ?_⟩
    split <;> rfl
  | _ =>
    intro taken
    obtain ⟨rfl, rfl⟩ := Prod.mk.inj (Option.some.inj taken)
    exact ⟨rfl, rfl⟩

/-- What is stored is concluded in order: pushed, or dropped by the test. -/
theorem step_concluded {event : Event α}
    (taken : (ldsThreads queueSize transferFormat).step threads event = some (after, outputs)) :
    underway threads.storing ++ (asked event).toList = outputs.filterMap concluded ++ underway after.storing := by
  cases event with
  | pushLidarData index lidarData baseTime =>
    simp only [ldsThreads, LdsThreads.step] at taken
    split at taken
    next idle =>
      obtain ⟨rfl, rfl⟩ := Prod.mk.inj (Option.some.inj taken)
      rw [idle]
      rfl
    next => cases taken
  | store => exact (List.append_nil _).trans (store_concluded taken)
  | distribute =>
    obtain ⟨same, silent⟩ := distribute_apart taken
    rw [same, silent]
    exact List.append_nil _
  | sampling | requestExit =>
    obtain ⟨rfl, rfl⟩ := Prod.mk.inj (Option.some.inj taken)
    exact List.append_nil _

/-- What is published of a lidar is what is popped with points in it. -/
theorem step_published {event : Event α} (index : Fin 32)
    (taken : (ldsThreads queueSize transferFormat).step threads event = some (after, outputs)) :
    outputs.filterMap (publishedAt index) =
      (outputs.filterMap (poppedAt index)).filter fun packet => !packet.points.isEmpty := by
  cases event with
  | pushLidarData =>
    simp only [ldsThreads, LdsThreads.step] at taken
    split at taken
    next =>
      obtain ⟨rfl, rfl⟩ := Prod.mk.inj (Option.some.inj taken)
      rfl
    next => cases taken
  | store =>
    simp only [ldsThreads, LdsThreads.step] at taken
    revert taken
    fun_cases LdsThreads.store queueSize threads with
    | case1 =>
      intro taken
      cases taken
    | case5 =>
      intro taken
      obtain ⟨_, _, same⟩ := Option.map_eq_some_iff.mp taken
      obtain ⟨rfl, rfl⟩ := Prod.mk.inj same
      rfl
    | _ =>
      intro taken
      obtain ⟨rfl, rfl⟩ := Prod.mk.inj (Option.some.inj taken)
      rfl
  | distribute =>
    simp only [ldsThreads, LdsThreads.step] at taken
    revert taken
    fun_cases LdsThreads.distribute transferFormat threads with
    | case3 =>
      intro taken
      cases taken
    | case12 =>
      intro taken
      obtain ⟨_, _, same⟩ := Option.map_eq_some_iff.mp taken
      obtain ⟨rfl, rfl⟩ := Prod.mk.inj same
      rfl
    | case13 place packet =>
      intro taken
      obtain ⟨rfl, rfl⟩ := Prod.mk.inj (Option.some.inj taken)
      by_cases same : place = index <;> by_cases empty : packet.points = [] <;>
        simp [List.filterMap_cons, poppedAt, publishedAt, same, empty]
    | _ =>
      intro taken
      obtain ⟨rfl, rfl⟩ := Prod.mk.inj (Option.some.inj taken)
      rfl
  | sampling | requestExit =>
    obtain ⟨rfl, rfl⟩ := Prod.mk.inj (Option.some.inj taken)
    rfl

variable {history : List (Entry (LdsThreads α) (Event α) (Output α))}

theorem run_concluded (run : (ldsThreads queueSize transferFormat).Run history threads) :
    history.filterMap (fun entry => asked entry.event) =
      (history.flatMap Entry.outputs).filterMap concluded ++ underway threads.storing := by
  induction run with
  | refl => rfl
  | @snoc state after history event outputs _ taken ih =>
    have step := step_concluded taken
    rw [List.filterMap_append, ih, List.flatMap_append, List.filterMap_append, List.append_assoc, List.append_assoc]
    congr 1
    cases asks : asked event <;> simpa [asks] using step

theorem path_held {start : LdsThreads α} (held : ThreadsHeld (placeBits queueSize) start)
    (path : (ldsThreads queueSize transferFormat).Path start history threads) :
    ThreadsHeld (placeBits queueSize) threads :=
  path.invariant (ThreadsHeld (placeBits queueSize)) held fun _ _ taken before => (step_accounted before taken).held

theorem run_held (run : (ldsThreads queueSize transferFormat).Run history threads) :
    ThreadsHeld (placeBits queueSize) threads := path_held initial_held run

theorem path_accounted {start : LdsThreads α} (held : ThreadsHeld (placeBits queueSize) start)
    (path : (ldsThreads queueSize transferFormat).Path start history threads) (index : Fin 32) :
    pending (start.data index) ++ (history.flatMap Entry.outputs).filterMap (pushedAt index) =
      (history.flatMap Entry.outputs).filterMap (poppedAt index) ++ pending (threads.data index) := by
  induction path with
  | refl => exact List.append_nil _
  | @snoc state after history event outputs earlier taken ih =>
    have step := (step_accounted (path_held held earlier) taken).account index
    simp only [List.flatMap_append, List.filterMap_append, List.flatMap_singleton]
    rw [← List.append_assoc, ih, List.append_assoc, step, List.append_assoc]

theorem path_published {start : LdsThreads α}
    (path : (ldsThreads queueSize transferFormat).Path start history threads) (index : Fin 32) :
    (history.flatMap Entry.outputs).filterMap (publishedAt index) =
      ((history.flatMap Entry.outputs).filterMap (poppedAt index)).filter fun packet => !packet.points.isEmpty := by
  induction path with
  | refl => rfl
  | snoc _ taken ih =>
    simp only [List.flatMap_append, List.filterMap_append, List.filter_append, List.flatMap_singleton]
    rw [ih, step_published index taken]

theorem run_pushed (run : (ldsThreads queueSize transferFormat).Run history threads) (index : Fin 32) :
    (history.flatMap Entry.outputs).filterMap (pushedAt index) =
      (history.flatMap Entry.outputs).filterMap (poppedAt index) ++ pending (threads.data index) := by
  have account := path_accounted initial_held run index
  have nothing : pending (({} : LdsThreads α).data index) = [] := pending_fresh
  rwa [nothing, List.nil_append] at account

def onePoint : PointPacket Int := ⟨1, 8, 1, [⟨1, 2, 3, 4, 0, 0, 70⟩], le_rfl⟩

def sampled : LdsThreads Int := { lidars := Function.update (fun _ => {}) 0 { connectState := .sampling } }

theorem sampled_first : (ldsThreads 10 1).Run [⟨{}, .sampling 0, [], sampled⟩] sampled :=
  Machine.Path.refl.snoc rfl

theorem one_stored : ∃ history threads, (ldsThreads 10 1).Path sampled history threads ∧
    history.flatMap Entry.outputs = [.pushed 0 (.of onePoint 70)] ∧ threads.requestExit = false ∧
    threads.storing = .idle ∧ threads.distributing = .entered ∧ pending (threads.data 0) = [.of onePoint 70] := by
  have recorded : (ldsThreads 10 1).record sampled (.pushLidarData 0 onePoint 70 :: List.replicate 7 .store) =
    some (_, _) := rfl
  exact ⟨_, _, Machine.path_of_record recorded, rfl, rfl, rfl, rfl, rfl⟩

/-- A packet with one point goes all the way, and the publishing thread waits for the next. -/
theorem one_delivered : ∃ history threads, (ldsThreads 10 1).Path sampled history threads ∧
    history.flatMap Entry.outputs = [.pushed 0 (.of onePoint 70), .popped 0 (.of onePoint 70),
      .published 0 (.of onePoint 70)] ∧
    threads.requestExit = false ∧ threads.storing = .idle ∧ threads.distributing = .waiting ∧ threads.pcdSemaphore = 0 := by
  have recorded : (ldsThreads 10 1).record sampled (.pushLidarData 0 onePoint 70 ::
    (List.replicate 7 .store ++ List.replicate 42 .distribute)) = some (_, _) := rfl
  exact ⟨_, _, Machine.path_of_record recorded, rfl, rfl, rfl, rfl, rfl⟩

end FlightStack.Proofs
