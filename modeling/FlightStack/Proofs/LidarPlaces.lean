import Mathlib
import FlightStack.Library.LockStep
import FlightStack.CacheIndex

/-! No two devices are ever given the same place among the lidars, and a device keeps
its place unless two searches for it overlap. -/

namespace FlightStack.Proofs
open CacheIndex

theorem indexKey_injective {first second : BitVec 32} (same : indexKey first = indexKey second) : first = second := by
  have digits : toString first.toNat = toString second.toNat := String.append_right_inj _ |>.mp same
  exact BitVec.eq_of_toNat_eq (Nat.repr_injective digits)

/-- What a critical section can come to. -/
inductive Searched (shared : Shared) : Shared → List Output → Prop where
  | looked {outputs : List Output} (held : ∀ handle index, .given handle index ∈ outputs →
      shared.cache.mapIndex (indexKey handle) = some index) (room : ∀ handle, .full handle ∉ outputs) :
      Searched shared shared outputs
  | missed {handle : BitVec 32} (absent : shared.cache.mapIndex (indexKey handle) = none) :
      Searched shared { shared with searching := handle :: shared.searching } []
  | took {handle : BitVec 32} {index : Fin 32} (searching : handle ∈ shared.searching)
      (free : shared.cache.indexCache index = false) (first : ∀ smaller < index, shared.cache.indexCache smaller = true) :
      Searched shared ⟨shared.cache.mark (indexKey handle) index, shared.searching.erase handle⟩ [.given handle index]
  | full {handle : BitVec 32} (searching : handle ∈ shared.searching)
      (taken : ∀ index, shared.cache.indexCache index = true) :
      Searched shared { shared with searching := shared.searching.erase handle } [.full handle]

theorem generateIndexKey_eq {livoxLidarType : BitVec 8} {handle : BitVec 32} {key : String}
    (made : generateIndexKey livoxLidarType handle = some key) : key = indexKey handle := by
  rw [generateIndexKey] at made
  split at made
  · exact (Option.some.inj made).symm
  · cases made

theorem first_free {cache : CacheIndex} {index : Fin 32}
    (found : ((List.finRange 32).find? fun i => !cache.indexCache i) = some index) :
    cache.indexCache index = false ∧ ∀ smaller < index, cache.indexCache smaller = true := by
  obtain ⟨free, position, inside, same, earlier⟩ := List.find?_eq_some_iff_getElem.mp found
  rw [List.getElem_finRange] at same
  refine ⟨by simpa using free, fun smaller below => ?_⟩
  have marked := earlier smaller (by rw [← same] at below; exact below)
  simpa using marked

theorem searched_of_step {shared after : Shared} {event : Event} {outputs : List Output}
    (taken : cacheIndex.step shared event = some (after, outputs)) : Searched shared after outputs := by
  cases event with
  | find livoxLidarType handle =>
    simp only [cacheIndex, CacheIndex.step] at taken
    split at taken
    next =>
      obtain ⟨rfl, rfl⟩ := Prod.mk.inj (Option.some.inj taken)
      exact .looked (by simp) (by simp)
    next key made =>
      obtain rfl := generateIndexKey_eq made
      split at taken
      next index found =>
        obtain ⟨rfl, rfl⟩ := Prod.mk.inj (Option.some.inj taken)
        refine .looked (fun other place member => ?_) (by simp)
        obtain ⟨rfl, rfl⟩ := Output.given.inj (List.mem_singleton.mp member)
        exact found
      next absent =>
        obtain ⟨rfl, rfl⟩ := Prod.mk.inj (Option.some.inj taken)
        exact .missed absent
  | take handle =>
    simp only [cacheIndex, CacheIndex.step] at taken
    split at taken
    next searching =>
      split at taken
      next index cache took =>
        obtain ⟨rfl, rfl⟩ := Prod.mk.inj (Option.some.inj taken)
        obtain ⟨place, found, same⟩ := Option.map_eq_some_iff.mp took
        obtain ⟨rfl, rfl⟩ := Prod.mk.inj same
        obtain ⟨free, first⟩ := first_free found
        exact .took searching free first
      next none =>
        obtain ⟨rfl, rfl⟩ := Prod.mk.inj (Option.some.inj taken)
        refine .full searching fun index => ?_
        have missing := List.find?_eq_none.mp (Option.map_eq_none_iff.mp none) index (List.mem_finRange index)
        simpa using missing
    next => cases taken
  | getIndex livoxLidarType handle =>
    simp only [cacheIndex, CacheIndex.step] at taken
    split at taken
    next index found =>
      obtain ⟨rfl, rfl⟩ := Prod.mk.inj (Option.some.inj taken)
      refine .looked (fun other place member => ?_) (by simp)
      obtain ⟨rfl, rfl⟩ := Output.given.inj (List.mem_singleton.mp member)
      obtain ⟨key, made, held⟩ := Option.bind_eq_some_iff.mp found
      exact generateIndexKey_eq made ▸ held
    next =>
      obtain ⟨rfl, rfl⟩ := Prod.mk.inj (Option.some.inj taken)
      exact .looked (by simp) (by simp)

/-- What was given and what is held, whoever searches meanwhile. -/
structure PlacesHeld (outputs : List Output) (cache : CacheIndex) : Prop where
  marked : ∀ handle index, .given handle index ∈ outputs → cache.indexCache index = true
  given : ∀ handle index, cache.mapIndex (indexKey handle) = some index → .given handle index ∈ outputs
  apart : ∀ first second index, .given first index ∈ outputs → .given second index ∈ outputs → first = second

theorem PlacesHeld.same {cache : CacheIndex} {outputs more : List Output} (held : PlacesHeld outputs cache)
    (known : ∀ handle index, .given handle index ∈ more → .given handle index ∈ outputs) :
    PlacesHeld (outputs ++ more) cache := by
  have before {handle : BitVec 32} {index : Fin 32} (member : .given handle index ∈ outputs ++ more) :
      .given handle index ∈ outputs := (List.mem_append.mp member).elim id (known handle index)
  exact {
    marked := fun handle index member => held.marked handle index (before member)
    given := fun handle index found => List.mem_append_left _ (held.given handle index found)
    apart := fun first second index one other => held.apart first second index (before one) (before other) }

theorem indexCache_mark (cache : CacheIndex) (key : String) (index other : Fin 32) :
    (cache.mark key index).indexCache other = if other = index then true else cache.indexCache other :=
  Function.update_apply ..

theorem mapIndex_mark (cache : CacheIndex) (handle other : BitVec 32) (index : Fin 32) :
    (cache.mark (indexKey handle) index).mapIndex (indexKey other) =
      if other = handle then some index else cache.mapIndex (indexKey other) := by
  simp only [mark, Function.update_apply]
  by_cases same : other = handle
  · rw [if_pos same, if_pos (congrArg indexKey same)]
  · rw [if_neg same, if_neg fun equal => same (indexKey_injective equal)]

theorem PlacesHeld.took {cache : CacheIndex} {outputs : List Output} {handle : BitVec 32} {index : Fin 32}
    (held : PlacesHeld outputs cache) (free : cache.indexCache index = false) :
    PlacesHeld (outputs ++ [.given handle index]) (cache.mark (indexKey handle) index) := by
  have unused (other : BitVec 32) : .given other index ∉ outputs := by
    intro member
    rw [held.marked other index member] at free
    cases free
  have either {other : BitVec 32} {place : Fin 32} (member : .given other place ∈ outputs ++ [.given handle index]) :
      .given other place ∈ outputs ∨ other = handle ∧ place = index := by
    rcases List.mem_append.mp member with earlier | last
    · exact .inl earlier
    · exact .inr (Output.given.inj (List.mem_singleton.mp last))
  constructor
  · intro other place member
    rw [indexCache_mark]
    split
    next => rfl
    next different =>
      rcases either member with earlier | ⟨_, same⟩
      · exact held.marked other place earlier
      · exact absurd same different
  · intro other place found
    rw [mapIndex_mark] at found
    split at found
    next same =>
      obtain rfl := Option.some.inj found
      exact List.mem_append_right _ (List.mem_singleton.mpr (congrArg (Output.given · _) same))
    next => exact List.mem_append_left _ (held.given other place found)
  · intro first second place one other
    rcases either one with earlier | ⟨rfl, rfl⟩ <;> rcases either other with before | ⟨rfl, same⟩
    · exact held.apart first second place earlier before
    · exact absurd (same ▸ earlier) (unused first)
    · exact absurd before (unused second)
    · rfl

theorem PlacesHeld.step {shared after : Shared} {outputs more : List Output} (held : PlacesHeld outputs shared.cache)
    (searched : Searched shared after more) : PlacesHeld (outputs ++ more) after.cache := by
  cases searched with
  | looked known => exact held.same fun handle index member => held.given handle index (known handle index member)
  | missed => exact held.same (by simp)
  | took _ free => exact held.took free
  | full => exact held.same (by simp)

variable {history : List (Entry Shared Event Output)} {shared : Shared}

theorem run_placesHeld (run : cacheIndex.Run history shared) :
    PlacesHeld (history.flatMap Entry.outputs) shared.cache := by
  induction run with
  | refl => exact ⟨by simp, by simp [cacheIndex], by simp⟩
  | snoc _ taken ih =>
    rw [List.flatMap_append, List.flatMap_singleton]
    exact ih.step (searched_of_step taken)

/-- What is held where no two threads search for the same device at once. -/
structure PlacesKept (outputs : List Output) (shared : Shared) : Prop where
  held : PlacesHeld outputs shared.cache
  absent : ∀ handle ∈ shared.searching, shared.cache.mapIndex (indexKey handle) = none
  kept : ∀ handle index, .given handle index ∈ outputs → shared.cache.mapIndex (indexKey handle) = some index
  owned : ∀ index, shared.cache.indexCache index = true → ∃ handle, .given handle index ∈ outputs
  refused : ∀ handle, .full handle ∈ outputs → ∀ index, shared.cache.indexCache index = true

theorem PlacesKept.step {shared after : Shared} {outputs more : List Output} (kept : PlacesKept outputs shared)
    (single : shared.searching.Nodup) (searched : Searched shared after more) :
    PlacesKept (outputs ++ more) after := by
  have held := kept.held.step searched
  cases searched with
  | looked known room =>
    refine ⟨held, kept.absent, fun handle index member => ?_, fun index marked => ?_, fun handle full => ?_⟩
    · exact (List.mem_append.mp member).elim (kept.kept handle index) (known handle index)
    · obtain ⟨handle, member⟩ := kept.owned index marked
      exact ⟨handle, List.mem_append_left _ member⟩
    · exact kept.refused handle ((List.mem_append.mp full).resolve_right (room handle))
  | missed absent =>
    refine ⟨held, ?_, by simpa using kept.kept, by simpa using kept.owned, by simpa using kept.refused⟩
    simpa using ⟨absent, kept.absent⟩
  | @took handle index searching free first =>
    refine ⟨held, ?_, ?_, ?_, ?_⟩
    · intro other waits
      obtain ⟨different, waiting⟩ := (List.Nodup.mem_erase_iff single).mp waits
      rw [mapIndex_mark, if_neg different]
      exact kept.absent other waiting
    · intro other place member
      rw [mapIndex_mark]
      rcases List.mem_append.mp member with earlier | last
      · have before := kept.kept other place earlier
        have different : other ≠ handle := by
          rintro rfl
          rw [kept.absent other searching] at before
          cases before
        rwa [if_neg different]
      · obtain ⟨rfl, rfl⟩ := Output.given.inj (List.mem_singleton.mp last)
        exact if_pos rfl
    · intro place marked
      rw [indexCache_mark] at marked
      split at marked
      next same => exact ⟨handle, List.mem_append_right _ (List.mem_singleton.mpr (congrArg _ same))⟩
      next =>
        obtain ⟨other, member⟩ := kept.owned place marked
        exact ⟨other, List.mem_append_left _ member⟩
    · intro other full place
      rw [indexCache_mark, kept.refused other (by simpa using full) place, ite_self]
  | full _ taken =>
    exact ⟨held, fun other waits => kept.absent other (List.mem_of_mem_erase waits), by simpa using kept.kept,
      by simpa using kept.owned, fun _ _ => taken⟩

theorem run_placesKept (run : cacheIndex.Run history shared)
    (single : ∀ entry ∈ history, entry.before.searching.Nodup) :
    PlacesKept (history.flatMap Entry.outputs) shared := by
  induction run with
  | refl => exact ⟨⟨by simp, by simp [cacheIndex], by simp⟩, by simp [cacheIndex], by simp, by simp [cacheIndex], by simp⟩
  | snoc _ taken ih =>
    rw [List.flatMap_append, List.flatMap_singleton]
    rw [List.forall_mem_append] at single
    exact (ih single.1).step (single.2 _ (List.mem_singleton.mpr rfl)) (searched_of_step taken)

/-- Two devices never get the same place, whatever threads search. Where no two of
them search for the same device at once, a device always gets its one place, and one
is refused only when 32 devices have theirs. -/
theorem places_apart (run : cacheIndex.Run history shared) :
    (∀ first second index, .given first index ∈ history.flatMap Entry.outputs →
        .given second index ∈ history.flatMap Entry.outputs → first = second) ∧
      ((∀ entry ∈ history, entry.before.searching.Nodup) →
        (∀ handle one other, .given handle one ∈ history.flatMap Entry.outputs →
          .given handle other ∈ history.flatMap Entry.outputs → one = other) ∧
        ∀ handle, .full handle ∈ history.flatMap Entry.outputs → ∃ holder : Fin 32 → BitVec 32,
          Function.Injective holder ∧ ∀ index, shared.cache.mapIndex (indexKey (holder index)) = some index) := by
  refine ⟨(run_placesHeld run).apart, fun single => ?_⟩
  have kept := run_placesKept run single
  constructor
  · intro handle one other first second
    exact Option.some.inj ((kept.kept handle one first).symm.trans (kept.kept handle other second))
  · intro handle full
    choose holder owned using fun index => kept.owned index (kept.refused handle full index)
    have placed index := kept.kept (holder index) index (owned index)
    refine ⟨holder, fun one other same => ?_, placed⟩
    have equal := placed one
    rw [same, placed other] at equal
    exact (Option.some.inj equal).symm

theorem places_apart_two : ∃ history shared, cacheIndex.Run history shared ∧
    history.flatMap Entry.outputs = [.given 7 0, .given 9 1, .given 7 0] ∧
    ∀ first second index, .given first index ∈ history.flatMap Entry.outputs →
      .given second index ∈ history.flatMap Entry.outputs → first = second := by
  have recorded : cacheIndex.record {} [.find 8 7, .take 7, .find 8 9, .take 9, .getIndex 8 7] = some (_, _) := rfl
  exact ⟨_, _, Machine.path_of_record recorded, rfl, (places_apart (Machine.path_of_record recorded)).1⟩

end FlightStack.Proofs
