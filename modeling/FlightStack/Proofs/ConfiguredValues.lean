import FlightStack.Proofs.Handshake

/-! What is asked of a lidar is what the file says of it, as far as eight bits hold it. -/

namespace FlightStack.Proofs
open LdsLidar
variable {α : Type}

theorem Told.bare_kept {lds after : LdsLidar α} {event : Event} {calls : List (SdkCall α)}
    (told : Told lds event after calls) (index : Fin 32) :
    bare (after.lidars index).livoxConfig = bare (lds.lidars index).livoxConfig := by
  cases told with
  | announced | added =>
    simp only [call, lidars_setLidar]
    split
    next same =>
      subst same
      rfl
    next => rfl
  | refused | answered => rfl
  | acknowledged _ _ _ _ same =>
    simp only [call, lidars_setLidar]
    split
    next equal =>
      subst equal
      exact same
    next => rfl

theorem bare_setting {first second : UserLivoxLidarConfig α} (same : bare first = bare second) (setting : Setting) :
    first.setting setting = second.setting setting ∧ first.argument setting = second.argument setting := by
  have equal : (bare first).setting setting = (bare second).setting setting ∧
      (bare first).argument setting = (bare second).argument setting := by rw [same]; exact ⟨rfl, rfl⟩
  cases setting <;> exact equal

theorem getFreeIndex_none {cache : CacheIndex} {handle : BitVec 32}
    (refused : cache.getFreeIndex kLivoxLidarType handle = none) :
    cache.mapIndex (CacheIndex.indexKey handle) = none ∧ ∀ index, cache.indexCache index = true := by
  rw [CacheIndex.getFreeIndex, CacheIndex.generateIndexKey, if_pos rfl, Option.bind_some] at refused
  split at refused
  next => cases refused
  next absent =>
    refine ⟨absent, fun index => ?_⟩
    have missing := List.find?_eq_none.mp (Option.map_eq_none_iff.mp refused) index (List.mem_finRange index)
    simpa using missing

theorem Told.called {lds after : LdsLidar α} {event : Event} {calls : List (SdkCall α)} {handle : BitVec 32}
    {setting : Setting} {value : Int} (told : Told lds event after calls) (called : .set handle setting value ∈ calls) :
    ∃ index, HasPlace lds.cacheIndex handle index ∧ value = (lds.lidars index).livoxConfig.argument setting ∧
      ((lds.lidars index).livoxConfig.setting setting ≠ -1 ∨ (handle, .setting setting) ∈ lds.awaited) := by
  cases told with
  | announced known plain =>
    obtain ⟨rfl, asks, same⟩ := mem_requestSettings.mp ((List.mem_append.mp called).resolve_right (plain _ _ _))
    exact ⟨_, known, same, .inl asks⟩
  | added _ _ plain => exact absurd called (plain _ _ _)
  | refused | acknowledged => cases called
  | answered waits sets =>
    obtain ⟨rfl, rfl, index, known, same⟩ := sets _ _ _ called
    exact ⟨index, known, same, .inr waits⟩

/-- What the file says of a setting -/
def fileMember (entry : LidarEntry α) : Setting → Option Int
  | .dataType => entry.pclDataType
  | .scanPattern => entry.patternMode
  | .blindSpot => entry.blindSpotSet
  | .dualEmit => entry.dualEmitEn

/-- What is sent for a value in the file -/
def sent (setting : Setting) (written : Int) : Int :=
  if setting = .dualEmit then if written.bmod 256 = 0 then 0 else 1 else written.bmod 256

theorem parseMember_eq (member : Option Int) : parseMember member = (member.map (Int.bmod · 256)).getD (-1) := by
  cases member with
  | none => rfl
  | some written => exact BitVec.toInt_ofInt written

theorem parsed_setting {entry : LidarEntry α} {config : UserLivoxLidarConfig α}
    (parsed : parseUserConfig entry = some config) (setting : Setting) :
    config.setting setting = ((fileMember entry setting).map (Int.bmod · 256)).getD (-1) := by
  obtain ⟨handle, _, rfl⟩ := Option.map_eq_some_iff.mp parsed
  cases setting <;> exact parseMember_eq _

theorem argument_eq_sent {config : UserLivoxLidarConfig α} {setting : Setting} {written : Int}
    (held : config.setting setting = written.bmod 256) : config.argument setting = sent setting written := by
  cases setting with
  | dualEmit =>
    rw [UserLivoxLidarConfig.argument, sent, if_pos rfl, ← held]
    rfl
  | dataType | scanPattern | blindSpot => exact held

theorem asked_iff {entry : LidarEntry α} {config : UserLivoxLidarConfig α} (parsed : parseUserConfig entry = some config)
    (setting : Setting) (value : Int) : config.setting setting ≠ -1 ∧ value = config.argument setting ↔
      ∃ written, fileMember entry setting = some written ∧ written.bmod 256 ≠ -1 ∧ value = sent setting written := by
  have held := parsed_setting parsed setting
  cases member : fileMember entry setting with
  | none =>
    rw [member] at held
    simp [held]
  | some written =>
    rw [member, Option.map_some, Option.getD_some] at held
    rw [argument_eq_sent held, held]
    simp

variable [Zero α]

def unconfigured : UserLivoxLidarConfig α := ⟨0, 0, 0, 0, 0, ⟨0, 0, 0, 0, 0, 0⟩, 0⟩

/-- What holds for a lidar: the last of the configurations that were read for it. -/
def lastConfig (configs : List (UserLivoxLidarConfig α)) (handle : BitVec 32) : UserLivoxLidarConfig α :=
  (configs.reverse.find? (·.handle = handle)).getD unconfigured

/-- Each place holds what was read for its lidar, and who has none was read nothing
for, unless all places were taken. -/
structure ConfigsHeld (configs : List (UserLivoxLidarConfig α)) (lds : LdsLidar α) : Prop where
  searchable : Searchable lds.cacheIndex
  placed : ∀ handle index, HasPlace lds.cacheIndex handle index →
    bare (lds.lidars index).livoxConfig = bare (lastConfig configs handle)
  free : ∀ index, lds.cacheIndex.indexCache index = false → bare (lds.lidars index).livoxConfig = unconfigured
  full : ∀ config ∈ configs, lds.cacheIndex.mapIndex (CacheIndex.indexKey config.handle) = none →
    ∀ index, lds.cacheIndex.indexCache index = true

theorem lastConfig_concat (configs : List (UserLivoxLidarConfig α)) (config : UserLivoxLidarConfig α)
    (handle : BitVec 32) : lastConfig (configs ++ [config]) handle =
      if config.handle = handle then config else lastConfig configs handle := by
  rw [lastConfig, List.reverse_append, List.reverse_singleton, List.singleton_append, List.find?_cons]
  split
  next same => simp [of_decide_eq_true same]
  next different => rw [if_neg (of_decide_eq_false different), lastConfig]

theorem lastConfig_absent {configs : List (UserLivoxLidarConfig α)} {handle : BitVec 32}
    (absent : ∀ config ∈ configs, config.handle ≠ handle) : lastConfig configs handle = unconfigured := by
  rw [lastConfig, List.find?_eq_none.mpr, Option.getD_none]
  intro config member
  simpa using absent config (List.mem_reverse.mp member)

theorem ConfigsHeld.addConfig {configs : List (UserLivoxLidarConfig α)} {lds : LdsLidar α} (held : ConfigsHeld configs lds)
    (config : UserLivoxLidarConfig α) : ConfigsHeld (configs ++ [config]) (lds.addConfig config) := by
  rw [LdsLidar.addConfig]
  split
  next refused =>
    obtain ⟨absent, taken⟩ := getFreeIndex_none refused
    refine ⟨held.searchable, fun handle index known => ?_, held.free, fun _ _ _ => taken⟩
    have different : config.handle ≠ handle := by
      rintro rfl
      cases absent.symm.trans known
    rw [lastConfig_concat, if_neg different]
    exact held.placed handle index known
  next index cache given =>
    have searchable := held.searchable.getFreeIndex given
    rcases getFreeIndex_cases given with ⟨rfl, place⟩ | ⟨absent, free, rfl⟩
    · refine ⟨searchable, fun handle other known => ?_, fun other free => ?_, fun next member missing => ?_⟩
      · rw [lastConfig_concat, lidars_setLidar]
        by_cases same : other = index
        · subst same
          rw [if_pos rfl, if_pos (searchable.apart place known)]
        · have different : config.handle ≠ handle := by
            rintro rfl
            exact same (HasPlace.index_eq known place)
          rw [if_neg same, if_neg different]
          exact held.placed handle other known
      · have different : other ≠ index := by
          rintro rfl
          cases (searchable.marked place).symm.trans free
        rw [lidars_setLidar, if_neg different]
        exact held.free other free
      · rcases List.mem_append.mp member with earlier | last
        · exact held.full next earlier missing
        · rw [List.mem_singleton.mp last] at missing
          cases missing.symm.trans place
    · refine ⟨searchable, fun handle other known => ?_, fun other unmarked => ?_, fun next member missing => ?_⟩
      · simp only [HasPlace, setLidar, mapIndex_mark] at known
        rw [lastConfig_concat, lidars_setLidar]
        by_cases same : handle = config.handle
        · rw [if_pos same] at known
          obtain rfl := Option.some.inj known
          rw [if_pos rfl, if_pos same.symm]
        · rw [if_neg same] at known
          have different : other ≠ index := by
            rintro rfl
            cases (held.searchable.marked known).symm.trans free
          rw [if_neg different, if_neg (Ne.symm same)]
          exact held.placed handle other known
      · simp only [setLidar, indexCache_mark] at unmarked
        split at unmarked
        next => cases unmarked
        next different =>
          rw [lidars_setLidar, if_neg different]
          exact held.free other unmarked
      · simp only [setLidar, mapIndex_mark] at missing
        split at missing
        next => cases missing
        next different =>
          rcases List.mem_append.mp member with earlier | last
          · rw [held.full next earlier missing index] at free
            cases free
          · exact absurd (congrArg UserLivoxLidarConfig.handle (List.mem_singleton.mp last)) different

theorem configsHeld_initial (entries : List (LidarEntry α)) :
    ConfigsHeld (entries.filterMap parseUserConfig) (ldsLidar entries).initial := by
  have start : ConfigsHeld [] (LdsLidar.blank : LdsLidar α) := by
    refine ⟨⟨[], by simp, by simp [LdsLidar.blank], by simp⟩, fun _ _ known => ?_, fun _ _ => rfl, by simp⟩
    cases known
  have folded (configs done : List (UserLivoxLidarConfig α)) (lds : LdsLidar α) (held : ConfigsHeld done lds) :
      ConfigsHeld (done ++ configs) (configs.foldl LdsLidar.addConfig lds) := by
    induction configs generalizing done lds with
    | nil => simpa using held
    | cons config configs ih => simpa using ih (done ++ [config]) _ (held.addConfig config)
  exact folded (entries.filterMap parseUserConfig) [] .blank start

theorem ConfigsHeld.step {configs : List (UserLivoxLidarConfig α)} {lds after : LdsLidar α} {event : Event}
    {calls : List (SdkCall α)} (held : ConfigsHeld configs lds) (told : Told lds event after calls) :
    ConfigsHeld configs after := by
  have same {handle : BitVec 32} {index : Fin 32} (known : HasPlace lds.cacheIndex handle index) :
      bare (after.lidars index).livoxConfig = bare (lastConfig configs handle) :=
    (told.bare_kept index).trans (held.placed handle index known)
  have searchable := told.searchable held.searchable
  have bare_kept := told.bare_kept
  cases told with
  | announced | refused | acknowledged | answered =>
    exact ⟨searchable, fun _ _ known => same known, fun index free => (bare_kept index).trans (held.free index free), held.full⟩
  | @added handle index _ absent free =>
    refine ⟨searchable, fun other place known => ?_, fun place unmarked => ?_, fun config member missing => ?_⟩
    · by_cases new : other = handle
      · subst new
        simp only [HasPlace, call, setLidar, mapIndex_mark, if_true] at known
        obtain rfl := Option.some.inj known
        rw [bare_kept, held.free _ free, lastConfig_absent]
        · rfl
        · rintro config member rfl
          cases (held.full config member absent index).symm.trans free
      · simp only [HasPlace, call, setLidar, mapIndex_mark, if_neg new] at known
        exact same known
    · simp only [call, setLidar, indexCache_mark] at unmarked
      split at unmarked
      next => cases unmarked
      next => exact (bare_kept place).trans (held.free place unmarked)
    · simp only [call, setLidar, mapIndex_mark] at missing
      split at missing
      next => cases missing
      next => cases (held.full config member missing index).symm.trans free

/-- Only settings that the file has are waited for. -/
def Wanted (configs : List (UserLivoxLidarConfig α)) (lds : LdsLidar α) : Prop :=
  ∀ handle setting, (handle, .setting setting) ∈ lds.awaited → (lastConfig configs handle).setting setting ≠ -1

theorem ConfigsHeld.called {configs : List (UserLivoxLidarConfig α)} {lds after : LdsLidar α} {event : Event}
    {calls : List (SdkCall α)} {handle : BitVec 32} {setting : Setting} {value : Int} (held : ConfigsHeld configs lds)
    (wanted : Wanted configs lds) (told : Told lds event after calls) (called : .set handle setting value ∈ calls) :
    value = (lastConfig configs handle).argument setting ∧ (lastConfig configs handle).setting setting ≠ -1 := by
  obtain ⟨index, known, rfl, asks⟩ := told.called called
  obtain ⟨same, equal⟩ := bare_setting (held.placed handle index known) setting
  exact ⟨equal, asks.elim (same ▸ ·) (wanted handle setting)⟩

theorem Wanted.step {configs : List (UserLivoxLidarConfig α)} {lds after : LdsLidar α} {event : Event}
    {calls : List (SdkCall α)} (wanted : Wanted configs lds) (held : ConfigsHeld configs lds)
    (told : Told lds event after calls) : Wanted configs after := by
  intro handle setting waits
  rcases mem_awaited told waits with before | ⟨value, called⟩
  · exact wanted handle setting before
  · exact (held.called wanted told called).2

variable {entries : List (LidarEntry α)} {lds : LdsLidar α} {history : List (Entry (LdsLidar α) Event (SdkCall α))}
  {handle : BitVec 32}

theorem run_configs (run : (ldsLidar entries).Run history lds) :
    ConfigsHeld (entries.filterMap parseUserConfig) lds ∧ Wanted (entries.filterMap parseUserConfig) lds := by
  refine run.invariant (fun lds => ConfigsHeld (entries.filterMap parseUserConfig) lds ∧
    Wanted (entries.filterMap parseUserConfig) lds) ?_ fun taken before => ?_
  · refine ⟨configsHeld_initial entries, ?_⟩
    simp [Wanted, (quiet_initial entries).silent]
  · have told := told_of_step taken
    exact ⟨before.1.step told, before.2.step before.1 told⟩

theorem lastConfig_filterMap {entry : LidarEntry α} (last : entries.reverse.find? (·.ip = some handle) = some entry) :
    parseUserConfig entry = some (lastConfig (entries.filterMap parseUserConfig) handle) := by
  have parsed : entry.ip = some handle := by simpa using List.find?_some last
  rw [lastConfig, ← List.filterMap_reverse]
  generalize entries.reverse = reversed at last
  induction reversed with
  | nil => cases last
  | cons first rest ih =>
    rw [List.find?_cons] at last
    by_cases ours : first.ip = some handle
    · rw [decide_eq_true ours] at last
      obtain rfl := Option.some.inj last
      simp [parseUserConfig, parsed]
    · rw [decide_eq_false ours] at last
      rw [ih last]
      cases other : first.ip with
      | none => simp [parseUserConfig, other]
      | some address =>
        rw [other, Option.some.injEq] at ours
        simp [parseUserConfig, other, ours]

def farBlindSpot : List (LidarEntry Int) :=
  [{ ip := some 7, blindSpotSet := some 150, extrinsicParameter := ⟨0, 0, 0, 0, 0, 0⟩ }]

/-- Each lidar of the file is asked, whenever it is announced, for exactly those
settings the file has for it, and always with what eight bits keep of the value. -/
theorem settings_as_configured {entry : LidarEntry α} (run : (ldsLidar entries).Run history lds)
    (last : entries.reverse.find? (·.ip = some handle) = some entry) :
    (∀ setting value, .set handle setting value ∈ history.flatMap Entry.outputs → ∃ written,
      fileMember entry setting = some written ∧ written.bmod 256 ≠ -1 ∧ value = sent setting written) ∧
      ∀ told ∈ history, told.event = .lidarInfoChange handle → told.before.getLidarDevice handle ≠ none →
        ∀ setting written, fileMember entry setting = some written → written.bmod 256 ≠ -1 →
          .set handle setting (sent setting written) ∈ told.outputs := by
  have parsed := lastConfig_filterMap last
  constructor
  · intro setting value called
    obtain ⟨told, member, inside⟩ := List.mem_flatMap.mp called
    obtain ⟨_, _, _, reached, taken, _⟩ := run.mem member
    obtain ⟨held, wanted⟩ := run_configs reached
    obtain ⟨same, asks⟩ := held.called wanted (told_of_step taken) inside
    exact (asked_iff parsed setting value).mp ⟨asks, same⟩
  · intro told member announced present setting written inside kept
    obtain ⟨_, _, _, reached, taken, _⟩ := run.mem member
    obtain ⟨index, known⟩ := Option.ne_none_iff_exists'.mp present
    obtain ⟨same, equal⟩ := bare_setting ((run_configs reached).1.placed handle index known) setting
    obtain ⟨asks, argument⟩ := (asked_iff parsed setting _).mpr ⟨written, inside, kept, rfl⟩
    rw [announced] at taken
    obtain ⟨_, outputs⟩ := Prod.mk.inj (Option.some.inj taken)
    rw [← outputs, lidarInfoChangeCallback, known]
    refine List.mem_append_left _ (mem_requestSettings.mpr ⟨rfl, ?_, ?_⟩)
    · rwa [same]
    · rw [argument, equal]

/-- 150 cm, which the range of the blind spot has, is asked for as -106. -/
theorem settings_as_configured_blindSpot : ∃ history lds, (ldsLidar farBlindSpot).Run history lds ∧
    .set 7 .blindSpot (-106) ∈ history.flatMap Entry.outputs := by
  have recorded : (ldsLidar farBlindSpot).record (ldsLidar farBlindSpot).initial [.lidarInfoChange 7] = some ([_], _) := rfl
  have run := Machine.path_of_record recorded
  have last : farBlindSpot.reverse.find? (·.ip = some (7 : BitVec 32)) = some _ := rfl
  have configured := settings_as_configured run last
  have called := configured.2 _ List.mem_cons_self rfl (by decide) .blindSpot 150 rfl (by decide)
  exact ⟨_, _, run, List.mem_flatMap.mpr ⟨_, List.mem_cons_self, called⟩⟩

end FlightStack.Proofs
