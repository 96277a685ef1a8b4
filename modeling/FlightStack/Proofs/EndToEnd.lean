import FlightStack.Driver
import FlightStack.Library.LockStep
import FlightStack.Library.Parts
import FlightStack.Proofs.FrameDelivery
import FlightStack.Proofs.Handshake
import FlightStack.Proofs.PointAccount

/-! What a lidar sends comes out of the driver: the account of the processing thread and
that of the queues put together over the runs of the whole. -/

namespace FlightStack.Proofs
open Driver
variable {α : Type}

def ldsTold (entry : Entry (Driver α) (Event α) (Output α)) : List LdsLidar.Event :=
  match entry.event with
  | .lds event => [event]
  | _ => []

theorem ldsTold_eq {entry : Entry (Driver α) (Event α) (Output α)} {event : LdsLidar.Event}
    (told : event ∈ ldsTold entry) : entry.event = .lds event := by
  obtain ⟨before, happened, outputs, after⟩ := entry
  cases happened with
  | lds => exact congrArg Event.lds (List.mem_singleton.mp told).symm
  | pub | storagePointData | store | distribute | requestExit => cases told

def ldsSaid : Output α → List (SdkCall α)
  | .called call => [call]
  | _ => []

def pubTold (entry : Entry (Driver α) (Event α) (Output α)) : List (PubHandler.Event α) :=
  match entry.event with
  | .pub event => [event]
  | _ => []

def pubSaid : Output α → List (PubHandler.Output α)
  | .handled output => [output]
  | _ => []

/-- The events that the two threads of the queues take as they are -/
def threadEvent : Event α → Option (LdsThreads.Event α)
  | .store => some .store
  | .distribute => some .distribute
  | .requestExit => some .requestExit
  | _ => none

/-- What a round of `StoragePointData` asks of the queues -/
def storageTold (before : Driver α) : List (LdsThreads.Event α) :=
  match before.frame with
  | [] => []
  | (baseTime, lidarPoint) :: _ =>
    ((before.lds.cacheIndex.getIndex lidarPoint.lidarType lidarPoint.handle).map
      (.pushLidarData · lidarPoint baseTime)).toList

def threadsTold (entry : Entry (Driver α) (Event α) (Output α)) : List (LdsThreads.Event α) :=
  match entry.event with
  | .lds _ => (sampling entry.before.lds entry.after.lds).map .sampling
  | .pub _ => []
  | .storagePointData => storageTold entry.before
  | event => (threadEvent event).toList

def threadsSaid : Output α → List (LdsThreads.Output α)
  | .thread output => [output]
  | _ => []

theorem sampled_path (queueSize : BitVec 32) (transferFormat : Int) (indices : List (Fin 32)) (threads : LdsThreads α) :
    ∃ moves, (ldsThreads queueSize transferFormat).Path threads moves (indices.foldl sample threads) ∧
      moves.map Entry.event = indices.map .sampling ∧ moves.flatMap Entry.outputs = [] := by
  induction indices generalizing threads with
  | nil => exact Machine.unmoved _ threads
  | cons index rest ih =>
    obtain ⟨moves, path, events, outputs⟩ := ih (sample threads index)
    have taken : (ldsThreads queueSize transferFormat).step threads (.sampling index) = some (sample threads index, []) := rfl
    exact ⟨_, .cons taken path, by simp [events], by simpa using outputs⟩

theorem told_of_threadEvent {entry : Entry (Driver α) (Event α) (Output α)} {told : LdsThreads.Event α}
    (same : threadEvent entry.event = some told) : ldsTold entry = [] ∧ pubTold entry = [] ∧ threadsTold entry = [told] := by
  obtain ⟨before, event, outputs, after⟩ := entry
  cases event with
  | lds | pub | storagePointData => cases same
  | store | distribute | requestExit =>
    obtain rfl := Option.some.inj same
    exact ⟨rfl, rfl, rfl⟩

theorem threads_moved {queueSize : BitVec 32} {transferFormat : Int} {threads after : LdsThreads α}
    {event : LdsThreads.Event α} {outputs : List (LdsThreads.Output α)}
    (taken : threads.step queueSize transferFormat event = some (after, outputs)) :
    ∃ moves, (ldsThreads queueSize transferFormat).Path threads moves after ∧ moves.map Entry.event = [event] ∧
      moves.flatMap Entry.outputs = outputs :=
  Machine.moved taken

/-- The entry of a frame that a round of `StoragePointData` is for -/
def storedFrame (entry : Entry (Driver α) (Event α) (Output α)) : PointFrame α :=
  match entry.event with
  | .storagePointData => entry.before.frame.take 1
  | _ => []

theorem storedFrame_threads {entry : Entry (Driver α) (Event α) (Output α)} {told : LdsThreads.Event α}
    (same : threadEvent entry.event = some told) : storedFrame entry = [] := by
  obtain ⟨before, event, outputs, after⟩ := entry
  cases event with
  | storagePointData => cases same
  | lds | pub | store | distribute | requestExit => rfl

variable [Arithmetic α] {entries : List (LidarEntry α)} {publishFreq : α} {transferFormat : Int}

/-- What an event can come to. -/
inductive Driven (entries : List (LidarEntry α)) (publishFreq : α) (transferFormat : Int) (driver : Driver α) :
    Event α → Driver α → List (Output α) → Prop where
  | lds {event : LdsLidar.Event} {lds : LdsLidar α} {calls : List (SdkCall α)}
      (taken : driver.lds.step event = some (lds, calls)) :
      Driven entries publishFreq transferFormat driver (.lds event)
        { driver with lds, threads := (sampling driver.lds lds).foldl sample driver.threads } (calls.map .called)
  | pub {event : PubHandler.Event α} {pub : PubHandler α} {outputs : List (PubHandler.Output α)}
      (taken : driver.pub.step (lidarExtrinsics entries) (setPointCloudConfig publishFreq) event = some (pub, outputs)) :
      Driven entries publishFreq transferFormat driver (.pub event)
        { driver with pub, frame := driver.frame ++ outputs.flatMap framesOf } (outputs.map .handled)
  | lost {baseTime : BitVec 64} {lidarPoint : PointPacket α} {rest : PointFrame α}
      (frame : driver.frame = (baseTime, lidarPoint) :: rest)
      (unknown : driver.lds.cacheIndex.getIndex lidarPoint.lidarType lidarPoint.handle = none) :
      Driven entries publishFreq transferFormat driver .storagePointData { driver with frame := rest } []
  | stored {baseTime : BitVec 64} {lidarPoint : PointPacket α} {rest : PointFrame α} {index : Fin 32}
      {threads : LdsThreads α} {outputs : List (LdsThreads.Output α)}
      (frame : driver.frame = (baseTime, lidarPoint) :: rest)
      (known : driver.lds.cacheIndex.getIndex lidarPoint.lidarType lidarPoint.handle = some index)
      (taken : driver.threads.step (calculatePacketQueueSize publishFreq) transferFormat
        (.pushLidarData index lidarPoint baseTime) = some (threads, outputs)) :
      Driven entries publishFreq transferFormat driver .storagePointData { driver with frame := rest, threads }
        (outputs.map .thread)
  | threads {event : Event α} {told : LdsThreads.Event α} {threads : LdsThreads α} {outputs : List (LdsThreads.Output α)}
      (same : threadEvent event = some told)
      (taken : driver.threads.step (calculatePacketQueueSize publishFreq) transferFormat told = some (threads, outputs)) :
      Driven entries publishFreq transferFormat driver event { driver with threads } (outputs.map .thread)

theorem driven_of_step {before after : Driver α} {event : Event α} {outputs : List (Output α)}
    (taken : (driver entries publishFreq transferFormat).step before event = some (after, outputs)) :
    Driven entries publishFreq transferFormat before event after outputs := by
  cases event with
  | lds event =>
    obtain ⟨⟨lds, calls⟩, done, same⟩ := Option.map_eq_some_iff.mp taken
    obtain ⟨rfl, rfl⟩ := Prod.mk.inj same
    exact .lds done
  | pub event =>
    simp only [driver, Driver.step] at taken
    split at taken
    next => cases taken
    next =>
      obtain ⟨⟨pub, handled⟩, done, same⟩ := Option.map_eq_some_iff.mp taken
      obtain ⟨rfl, rfl⟩ := Prod.mk.inj same
      exact .pub done
  | storagePointData =>
    simp only [driver, Driver.step, Driver.storagePointData] at taken
    split at taken
    next => cases taken
    next baseTime lidarPoint rest frame =>
      split at taken
      next => cases taken
      next =>
        split at taken
        next unknown =>
          obtain ⟨rfl, rfl⟩ := Prod.mk.inj (Option.some.inj taken)
          exact .lost frame unknown
        next index known =>
          obtain ⟨⟨threads, said⟩, done, same⟩ := Option.map_eq_some_iff.mp taken
          obtain ⟨rfl, rfl⟩ := Prod.mk.inj same
          exact .stored frame known done
  | store | distribute | requestExit =>
    simp only [driver, Driver.step, stepThreads] at taken
    obtain ⟨⟨threads, said⟩, done, same⟩ := Option.map_eq_some_iff.mp taken
    obtain ⟨rfl, rfl⟩ := Prod.mk.inj same
    exact .threads rfl done

theorem lds_part : Machine.Part (driver entries publishFreq transferFormat) (ldsLidar entries) Driver.lds ldsTold ldsSaid where
  initial := rfl
  step {entry} taken := by
    obtain ⟨before, event, outputs, after⟩ := entry
    have driven := driven_of_step taken
    simp only at driven
    cases driven with
    | lds done =>
      obtain ⟨moves, path, told, said⟩ := Machine.moved (show (ldsLidar entries).step _ _ = _ from done)
      exact ⟨moves, path, told, by simp [said, List.flatMap_map, ldsSaid]⟩
    | pub | lost | stored => exact ⟨[], .refl, rfl, by simp [List.flatMap_map, ldsSaid]⟩
    | threads same => exact ⟨[], .refl, (told_of_threadEvent same).1.symm, by simp [List.flatMap_map, ldsSaid]⟩

theorem pub_part : Machine.Part (driver entries publishFreq transferFormat)
    (pubHandler (lidarExtrinsics entries) (setPointCloudConfig publishFreq)) Driver.pub pubTold pubSaid where
  initial := rfl
  step {entry} taken := by
    obtain ⟨before, event, outputs, after⟩ := entry
    have driven := driven_of_step taken
    simp only at driven
    cases driven with
    | pub done =>
      obtain ⟨moves, path, told, said⟩ :=
        Machine.moved (show (pubHandler (lidarExtrinsics entries) (setPointCloudConfig publishFreq)).step _ _ = _ from done)
      exact ⟨moves, path, told, by simp [said, List.flatMap_map, pubSaid]⟩
    | lds | lost | stored => exact ⟨[], .refl, rfl, by simp [List.flatMap_map, pubSaid]⟩
    | threads same => exact ⟨[], .refl, (told_of_threadEvent same).2.1.symm, by simp [List.flatMap_map, pubSaid]⟩

theorem threads_part : Machine.Part (driver entries publishFreq transferFormat)
    (ldsThreads (calculatePacketQueueSize publishFreq) transferFormat) Driver.threads threadsTold threadsSaid where
  initial := rfl
  step {entry} taken := by
    obtain ⟨before, event, outputs, after⟩ := entry
    have driven := driven_of_step taken
    simp only at driven
    cases driven with
    | @lds event lds calls done =>
      obtain ⟨moves, path, told, said⟩ := sampled_path (calculatePacketQueueSize publishFreq) transferFormat
        (sampling before.lds lds) before.threads
      exact ⟨moves, path, told, by simp [said, List.flatMap_map, threadsSaid]⟩
    | pub => exact ⟨[], .refl, rfl, by simp [List.flatMap_map, threadsSaid]⟩
    | lost frame unknown => exact ⟨[], .refl, by simp [threadsTold, storageTold, frame, unknown], rfl⟩
    | stored frame known done =>
      obtain ⟨moves, path, told, said⟩ := threads_moved done
      exact ⟨moves, path, by simp [told, threadsTold, storageTold, frame, known], by simp [said, List.flatMap_map, threadsSaid]⟩
    | threads same done =>
      obtain ⟨moves, path, told, said⟩ := threads_moved done
      exact ⟨moves, path, told.trans (told_of_threadEvent same).2.2.symm, by simp [said, List.flatMap_map, threadsSaid]⟩

variable {history : List (Entry (Driver α) (Event α) (Output α))} {final : Driver α} {id : BitVec 32} {index : Fin 32}

/-- Frames are stored in their order. -/
theorem run_frames (run : (driver entries publishFreq transferFormat).Run history final) :
    ((history.flatMap Entry.outputs).flatMap pubSaid).flatMap framesOf = history.flatMap storedFrame ++ final.frame := by
  induction run with
  | refl => rfl
  | @snoc before after history event outputs _ taken ih =>
    have step : before.frame ++ (outputs.flatMap pubSaid).flatMap framesOf =
        storedFrame ⟨before, event, outputs, after⟩ ++ after.frame := by
      cases driven_of_step taken with
      | lds => simp [List.flatMap_map, pubSaid, storedFrame]
      | pub => simp [List.flatMap_map, pubSaid, storedFrame]
      | lost frame => simp [storedFrame, frame]
      | stored frame => simp [List.flatMap_map, pubSaid, storedFrame, frame]
      | threads same =>
        have nothing {outputs : List (Output α)} {after : Driver α} : storedFrame ⟨before, event, outputs, after⟩ = [] :=
          storedFrame_threads same
        simp [List.flatMap_map, pubSaid, nothing]
    simp only [List.flatMap_append, List.flatMap_singleton, ih, List.append_assoc, step]

theorem setPointCloudConfig_ten : setPointCloudConfig (10 : ℝ) = tenHertz := by
  have interval : ⌊(1000000000 : ℝ) / (10 * 10) * 10⌋₊ = 100000000 := by
    have whole : (1000000000 : ℝ) / (10 * 10) * 10 = (100000000 : ℕ) := by norm_num
    rw [whole, Nat.floor_natCast]
  rw [setPointCloudConfig, interval]
  rfl

theorem calculatePacketQueueSize_ten : calculatePacketQueueSize (10 : ℝ) = 10 := if_neg (lt_irrefl _)

def oneLidar : List (LidarEntry ℝ) := [{ ip := some 7, patternMode := some 0, extrinsicParameter := ⟨0, 0, 0, 0, 0, 0⟩ }]

/-- The driver with a lidar and 10 Hz -/
noncomputable def oneLidarDriver : Machine (Driver ℝ) (Event ℝ) (Output ℝ) :=
  { driver oneLidar 10 1 with step := Driver.step (lidarExtrinsics oneLidar) tenHertz 10 1 }

theorem oneLidarDriver_eq : driver oneLidar 10 1 = oneLidarDriver := by
  rw [oneLidarDriver, driver, setPointCloudConfig_ten, calculatePacketQueueSize_ten]

def oneLidarEvents : List (Event ℝ) :=
  [.lds (.lidarInfoChange 7), .lds (.reply 7 (.setting .scanPattern) .success true)] ++
    (onePacketEvents .gps 1 0 ++ onePacketEvents .gps 100000000 0).map .pub ++
    .storagePointData :: (List.replicate 7 .store ++ List.replicate 42 .distribute)

/-- The point of `onePacket` as it is published, a metre ahead -/
noncomputable def aheadPoint (time : BitVec 64) : PointXyzlt ℝ :=
  LidarPubHandler.cartesianPoint 1000 (LidarPubHandler.detailed ⟨0, 0, 0, 0, 0, 0⟩)
    ⟨7, false, 4, 1, time, 0, .cartesianHigh [⟨1000, 0, 0, 0, 0⟩]⟩ ⟨1000, 0, 0, 0, 0⟩ 0

theorem oneLidar_run : ∃ history final entry, oneLidarDriver.Run history final ∧ history.flatMap Entry.outputs =
      [.called (.set 7 .scanPattern 0), .called (.setInstallAttitude 7 ⟨0, 0, 0, 0, 0, 0⟩), .called (.setWorkModeNormal 7),
        .called (.enableImuData 7), .handled (.publish [entry]), .thread (.pushed 0 (.of entry.2 entry.1)),
        .thread (.popped 0 (.of entry.2 entry.1)), .thread (.published 0 (.of entry.2 entry.1))] ∧
      entry.2.points.length = 2 ∧ (StoragePacket.of entry.2 entry.1).baseTime = 1 ∧
      (StoragePacket.of entry.2 entry.1).pointsNum = 2 ∧
      (StoragePacket.of entry.2 entry.1).points = [aheadPoint 1, aheadPoint 100000000] := by
  have recorded : oneLidarDriver.record oneLidarDriver.initial oneLidarEvents = some (_, _) := rfl
  exact ⟨_, _, _, Machine.path_of_record recorded, rfl, rfl, rfl, rfl, rfl⟩

end FlightStack.Proofs
