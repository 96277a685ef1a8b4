import Mathlib.Data.Fintype.Basic
import FlightStack.Library.Machine

/-! `CacheIndex`: the place that each device has among the lidars of the driver. -/

namespace FlightStack

/-- `map_index_` and `index_cache_` -/
structure CacheIndex where
  mapIndex : String → Option (Fin 32) := fun _ => none
  indexCache : Fin 32 → Bool := fun _ => false

def kLivoxLidarType : BitVec 8 := 8

namespace CacheIndex

def indexKey (handle : BitVec 32) : String := "livox_lidar_" ++ toString handle.toNat

def generateIndexKey (livoxLidarType : BitVec 8) (handle : BitVec 32) : Option String :=
  if livoxLidarType = kLivoxLidarType then some (indexKey handle) else none

def mark (cache : CacheIndex) (key : String) (i : Fin 32) : CacheIndex where
  mapIndex := Function.update cache.mapIndex key (some i)
  indexCache := Function.update cache.indexCache i true

/-- The loop of `GetFreeIndex`, its second critical section -/
def takeFreeIndex (cache : CacheIndex) (key : String) : Option (Fin 32 × CacheIndex) :=
  ((List.finRange 32).find? fun i => !cache.indexCache i).map fun i => (i, cache.mark key i)

def getFreeIndex (cache : CacheIndex) (livoxLidarType : BitVec 8) (handle : BitVec 32) : Option (Fin 32 × CacheIndex) :=
  (generateIndexKey livoxLidarType handle).bind fun key =>
    match cache.mapIndex key with
    | some index => some (index, cache)
    | none => cache.takeFreeIndex key

def getIndex (cache : CacheIndex) (livoxLidarType : BitVec 8) (handle : BitVec 32) : Option (Fin 32) :=
  (generateIndexKey livoxLidarType handle).bind cache.mapIndex

/-- The callers between the two critical sections of `GetFreeIndex`, next to the cache -/
structure Shared where
  cache : CacheIndex := {}
  searching : List (BitVec 32) := []

inductive Event where
  | find (livoxLidarType : BitVec 8) (handle : BitVec 32)
  | take (handle : BitVec 32)
  | getIndex (livoxLidarType : BitVec 8) (handle : BitVec 32)

inductive Output where
  | given (handle : BitVec 32) (index : Fin 32)
  | full (handle : BitVec 32)
  | unknown (handle : BitVec 32)

def step (shared : Shared) : Event → Option (Shared × List Output)
  | .find livoxLidarType handle =>
    match generateIndexKey livoxLidarType handle with
    | none => some (shared, [.unknown handle])
    | some key =>
      match shared.cache.mapIndex key with
      | some index => some (shared, [.given handle index])
      | none => some ({ shared with searching := handle :: shared.searching }, [])
  | .take handle =>
    if handle ∈ shared.searching then
      let searching := shared.searching.erase handle
      match shared.cache.takeFreeIndex (indexKey handle) with
      | some (index, cache) => some (⟨cache, searching⟩, [.given handle index])
      | none => some ({ shared with searching }, [.full handle])
    else none
  | .getIndex livoxLidarType handle =>
    match shared.cache.getIndex livoxLidarType handle with
    | some index => some (shared, [.given handle index])
    | none => some (shared, [.unknown handle])

end CacheIndex

/-- The calls of any number of threads, one critical section at a time -/
def cacheIndex : Machine CacheIndex.Shared CacheIndex.Event CacheIndex.Output where
  initial := {}
  step := CacheIndex.step

end FlightStack
