import FlightStack.LidarConfig
import FlightStack.Proofs.LidarPlaces

/-! How a lidar comes to sample: each setting that is asked of it is acknowledged. -/

namespace FlightStack.Proofs
open LdsLidar
variable {α : Type}

def HasPlace (cache : CacheIndex) (handle : BitVec 32) (index : Fin 32) : Prop :=
  cache.mapIndex (CacheIndex.indexKey handle) = some index

/-- A cache that was only searched. -/
def Searchable (cache : CacheIndex) : Prop := ∃ outputs, PlacesHeld outputs cache

theorem Searchable.apart {cache : CacheIndex} (searchable : Searchable cache) {first second : BitVec 32} {index : Fin 32}
    (one : HasPlace cache first index) (other : HasPlace cache second index) : first = second := by
  obtain ⟨outputs, held⟩ := searchable
  exact held.apart first second index (held.given first index one) (held.given second index other)

theorem Searchable.marked {cache : CacheIndex} (searchable : Searchable cache) {handle : BitVec 32} {index : Fin 32}
    (place : HasPlace cache handle index) : cache.indexCache index = true := by
  obtain ⟨outputs, held⟩ := searchable
  exact held.marked handle index (held.given handle index place)

theorem getLidarDevice_iff {lds : LdsLidar α} {handle : BitVec 32} {index : Fin 32} :
    lds.getLidarDevice handle = some index ↔ HasPlace lds.cacheIndex handle index := Iff.rfl

/-- What `GetFreeIndex` gives: the place of the device, or a new one. -/
theorem getFreeIndex_cases {cache after : CacheIndex} {handle : BitVec 32} {index : Fin 32}
    (given : cache.getFreeIndex kLivoxLidarType handle = some (index, after)) :
    after = cache ∧ HasPlace cache handle index ∨
      cache.mapIndex (CacheIndex.indexKey handle) = none ∧ cache.indexCache index = false ∧
        after = cache.mark (CacheIndex.indexKey handle) index := by
  rw [CacheIndex.getFreeIndex, CacheIndex.generateIndexKey, if_pos rfl, Option.bind_some] at given
  split at given
  next place found =>
    obtain ⟨rfl, rfl⟩ := Prod.mk.inj (Option.some.inj given)
    exact .inl ⟨rfl, found⟩
  next absent =>
    obtain ⟨place, found, same⟩ := Option.map_eq_some_iff.mp given
    obtain ⟨rfl, rfl⟩ := Prod.mk.inj same
    exact .inr ⟨absent, (first_free found).1, rfl⟩

theorem Searchable.getFreeIndex {cache after : CacheIndex} {handle : BitVec 32} {index : Fin 32}
    (searchable : Searchable cache) (given : cache.getFreeIndex kLivoxLidarType handle = some (index, after)) :
    Searchable after := by
  obtain ⟨outputs, held⟩ := searchable
  rcases getFreeIndex_cases given with ⟨rfl, _⟩ | ⟨_, free, rfl⟩
  · exact ⟨outputs, held⟩
  · exact ⟨_, held.took free⟩

/-- A driver that has read its file and has not been told of a lidar yet. -/
structure Quiet (lds : LdsLidar α) : Prop where
  searchable : Searchable lds.cacheIndex
  clear : ∀ index, (lds.lidars index).livoxConfig.setBits = 0
  off : ∀ index, (lds.lidars index).connectState = .off
  silent : lds.awaited = []

theorem Quiet.addConfig {lds : LdsLidar α} {config : UserLivoxLidarConfig α} (quiet : Quiet lds)
    (clear : config.setBits = 0) : Quiet (lds.addConfig config) := by
  rw [LdsLidar.addConfig]
  split
  next => exact quiet
  next index cache given =>
    refine ⟨quiet.searchable.getFreeIndex given, fun other => ?_, fun other => ?_, quiet.silent⟩
    · simp only [setLidar, Function.update_apply]
      split
      next => exact clear
      next => exact quiet.clear other
    · simp only [setLidar, Function.update_apply]
      split
      next => exact quiet.off index
      next => exact quiet.off other

theorem quiet_initial [Zero α] (entries : List (LidarEntry α)) : Quiet (ldsLidar entries).initial := by
  have clear : ∀ config ∈ entries.filterMap parseUserConfig, config.setBits = 0 := by
    intro config member
    obtain ⟨entry, _, parsed⟩ := List.mem_filterMap.mp member
    obtain ⟨handle, _, rfl⟩ := Option.map_eq_some_iff.mp parsed
    rfl
  have start : Quiet (LdsLidar.blank : LdsLidar α) :=
    ⟨⟨[], by simp, by simp [LdsLidar.blank], by simp⟩, fun _ => rfl, fun _ => rfl, rfl⟩
  simp only [ldsLidar]
  generalize entries.filterMap parseUserConfig = configs at clear
  generalize (LdsLidar.blank : LdsLidar α) = lds at start
  induction configs generalizing lds with
  | nil => exact start
  | cons config configs ih =>
    rw [List.forall_mem_cons] at clear
    exact ih clear.2 _ (start.addConfig clear.1)

/-- A configuration without what is still to be acknowledged of it -/
def bare (config : UserLivoxLidarConfig α) : UserLivoxLidarConfig α := { config with setBits := 0 }

/-- A lidar with another set of settings still to be acknowledged. -/
def withSetBits (lidar : ConfiguredLidar α) (setBits : BitVec 32) : ConfiguredLidar α :=
  { lidar with livoxConfig := { lidar.livoxConfig with setBits } }

/-- What an event can come to. -/
inductive Told (lds : LdsLidar α) : Event → LdsLidar α → List (SdkCall α) → Prop where
  | announced {handle : BitVec 32} {index : Fin 32} {rest : List (SdkCall α)}
      (known : HasPlace lds.cacheIndex handle index) (plain : ∀ other setting value, .set other setting value ∉ rest) :
      Told lds (.lidarInfoChange handle)
        ((lds.setLidar index (withSetBits (lds.lidars index)
            (requestSettings (lds.lidars index).livoxConfig handle).1)).call
          ((requestSettings (lds.lidars index).livoxConfig handle).2 ++ rest))
        ((requestSettings (lds.lidars index).livoxConfig handle).2 ++ rest)
  | added {handle : BitVec 32} {index : Fin 32} {calls : List (SdkCall α)}
      (absent : lds.cacheIndex.mapIndex (CacheIndex.indexKey handle) = none)
      (free : lds.cacheIndex.indexCache index = false) (plain : ∀ other setting value, .set other setting value ∉ calls) :
      Told lds (.lidarInfoChange handle)
        (({ lds with cacheIndex := lds.cacheIndex.mark (CacheIndex.indexKey handle) index }.setLidar index
          { lds.lidars index with lidarType := kLivoxLidarType }).call calls) calls
  | refused {handle : BitVec 32} (absent : lds.cacheIndex.mapIndex (CacheIndex.indexKey handle) = none) : Told lds (.lidarInfoChange handle) (lds.call []) []
  | acknowledged {handle : BitVec 32} {index : Fin 32} {setting : Setting} {response : Bool} {lidar : ConfiguredLidar α}
      (waits : (handle, .setting setting) ∈ lds.awaited) (known : HasPlace lds.cacheIndex handle index)
      (bits : lidar.livoxConfig.setBits = (lds.lidars index).livoxConfig.setBits &&& ~~~setting.bit)
      (state : lidar.connectState = if lidar.livoxConfig.setBits = 0 then .sampling else (lds.lidars index).connectState)
      (same : bare lidar.livoxConfig = bare (lds.lidars index).livoxConfig) :
      Told lds (.reply handle (.setting setting) .success response)
        (({ lds with awaited := lds.awaited.erase (handle, .setting setting) }.setLidar index lidar).call []) []
  | answered {handle : BitVec 32} {asked : Asked} {status : LivoxStatus} {response : Bool} {calls : List (SdkCall α)}
      (waits : (handle, asked) ∈ lds.awaited)
      (sets : ∀ other setting value, .set other setting value ∈ calls → other = handle ∧ asked = .setting setting ∧
        ∃ index, HasPlace lds.cacheIndex handle index ∧ value = (lds.lidars index).livoxConfig.argument setting)
      (again : ∀ setting index, asked = .setting setting → status = .timeout → HasPlace lds.cacheIndex handle index →
        ∃ value, .set handle setting value ∈ calls)
      (unknown : ∀ setting index, asked = .setting setting → status = .success →
        ¬ HasPlace lds.cacheIndex handle index) :
      Told lds (.reply handle asked status response)
        ({ lds with awaited := lds.awaited.erase (handle, asked) }.call calls) calls

theorem told_settingCallback {lds : LdsLidar α} {handle : BitVec 32} {setting : Setting} {status : LivoxStatus}
    {response : Bool} (waits : (handle, .setting setting) ∈ lds.awaited) :
    Told lds (.reply handle (.setting setting) status response)
      ((settingCallback setting { lds with awaited := lds.awaited.erase (handle, .setting setting) } status handle).1.call
        (settingCallback setting { lds with awaited := lds.awaited.erase (handle, .setting setting) } status handle).2)
      (settingCallback setting { lds with awaited := lds.awaited.erase (handle, .setting setting) } status handle).2 := by
  rw [settingCallback]
  split
  next absent =>
    refine .answered waits (by simp) (fun _ index _ _ known => ?_) fun _ index _ _ known => ?_
    all_goals cases absent.symm.trans known
  next index known =>
    cases status with
    | success => exact .acknowledged waits known rfl rfl rfl
    | timeout =>
      refine .answered waits ?_ ?_ fun _ _ _ none => by cases none
      · simp only [List.mem_singleton, SdkCall.set.injEq, Asked.setting.injEq]
        rintro _ _ _ ⟨rfl, rfl, rfl⟩
        exact ⟨rfl, rfl, index, known, rfl⟩
      · intro other _ same _ _
        cases same
        exact ⟨_, List.mem_singleton.mpr rfl⟩
    | failure => exact .answered waits (by simp) (fun _ _ _ none => by cases none) fun _ _ _ none => by cases none

theorem told_of_step {lds after : LdsLidar α} {event : Event} {calls : List (SdkCall α)}
    (taken : lds.step event = some (after, calls)) : Told lds event after calls := by
  cases event with
  | lidarInfoChange handle =>
    obtain ⟨rfl, rfl⟩ := Prod.mk.inj (Option.some.inj taken)
    rw [lidarInfoChangeCallback]
    split
    next absent =>
      split
      next => exact .refused absent
      next index cache given =>
        rcases getFreeIndex_cases given with ⟨_, known⟩ | ⟨missing, free, rfl⟩
        · rw [getLidarDevice_iff.mpr known] at absent
          cases absent
        · exact .added missing free (by simp)
    next index known => exact .announced known (by simp)
  | reply handle asked status response =>
    rw [LdsLidar.step] at taken
    split at taken
    next waits =>
      obtain ⟨rfl, rfl⟩ := Prod.mk.inj (Option.some.inj taken)
      cases asked with
      | setting setting => cases setting <;> exact told_settingCallback waits
      | installAttitude =>
        refine .answered waits ?_ (fun _ _ none => by cases none) fun _ _ none => by cases none
        intro other setting value member
        simp only [replied, setAttitudeCallback] at member
        split at member <;> simp at member
      | workMode =>
        refine .answered waits ?_ (fun _ _ none => by cases none) fun _ _ none => by cases none
        intro other setting value member
        simp only [replied, workModeChangedCallback] at member
        split at member <;> simp at member
      | imuData =>
        refine .answered waits ?_ (fun _ _ none => by cases none) fun _ _ none => by cases none
        intro other setting value member
        simp only [replied, enableLivoxLidarImuDataCallback] at member
        split at member <;> simp at member
    next => cases taken

/-- The position of a setting's bit. -/
def settingPlace : Setting → Nat
  | .dataType => 0
  | .scanPattern => 1
  | .blindSpot => 2
  | .dualEmit => 3

/-- A setting is asked of a lidar and not acknowledged. -/
def Open (lidar : ConfiguredLidar α) (setting : Setting) : Prop := lidar.livoxConfig.setBits.getLsbD (settingPlace setting) = true

theorem getLsbD_bit (setting other : Setting) : setting.bit.getLsbD (settingPlace other) = decide (setting = other) := by
  cases setting <;> cases other <;> rfl

theorem Open.nonzero {lidar : ConfiguredLidar α} {setting : Setting} (waits : Open lidar setting) :
    lidar.livoxConfig.setBits ≠ 0 := by
  intro zero
  rw [Open, zero] at waits
  simp at waits

theorem requestSetting_getLsbD (config : UserLivoxLidarConfig α) (handle : BitVec 32) (setting other : Setting) :
    (requestSetting config handle setting).1.getLsbD (settingPlace other) =
      (decide (config.setting setting ≠ -1) && decide (setting = other)) := by
  rw [requestSetting]
  split
  next asks => simp [asks, getLsbD_bit]
  next none => simp [none]

theorem requestSettings_getLsbD (config : UserLivoxLidarConfig α) (handle : BitVec 32) (setting : Setting) :
    (requestSettings config handle).1.getLsbD (settingPlace setting) =
      (config.setBits.getLsbD (settingPlace setting) || decide (config.setting setting ≠ -1)) := by
  simp only [requestSettings, BitVec.getLsbD_or, requestSetting_getLsbD]
  cases setting <;> simp

theorem requestSettings_nonzero {config : UserLivoxLidarConfig α} {handle : BitVec 32} (nonzero : config.setBits ≠ 0) :
    (requestSettings config handle).1 ≠ 0 := by
  intro zero
  have three := (BitVec.or_eq_zero_iff.mp zero).1
  have two := (BitVec.or_eq_zero_iff.mp three).1
  exact nonzero (BitVec.or_eq_zero_iff.mp (BitVec.or_eq_zero_iff.mp two).1).1

theorem mem_requestSetting {config : UserLivoxLidarConfig α} {handle other : BitVec 32} {setting wanted : Setting}
    {value : Int} : .set other wanted value ∈ (requestSetting config handle setting).2 ↔
      other = handle ∧ wanted = setting ∧ config.setting setting ≠ -1 ∧ value = config.argument setting := by
  rw [requestSetting]
  split
  next asks => simp [asks]
  next none => simp [none]

theorem mem_requestSettings {config : UserLivoxLidarConfig α} {handle other : BitVec 32} {setting : Setting}
    {value : Int} : .set other setting value ∈ (requestSettings config handle).2 ↔
      other = handle ∧ config.setting setting ≠ -1 ∧ value = config.argument setting := by
  simp only [requestSettings, List.mem_append, mem_requestSetting]
  cases setting <;> simp

/-- What a step makes of a lidar. -/
inductive LidarChange (lds : LdsLidar α) (event : Event) (index : Fin 32) (lidar : ConfiguredLidar α) : Prop where
  | kept (bits : lidar.livoxConfig.setBits = (lds.lidars index).livoxConfig.setBits)
      (state : lidar.connectState = (lds.lidars index).connectState)
  | announced {handle : BitVec 32} (told : event = .lidarInfoChange handle)
      (known : HasPlace lds.cacheIndex handle index)
      (bits : lidar.livoxConfig.setBits = (requestSettings (lds.lidars index).livoxConfig handle).1)
      (state : lidar.connectState = (lds.lidars index).connectState)
  | acknowledged {handle : BitVec 32} {setting : Setting} {response : Bool}
      (told : event = .reply handle (.setting setting) .success response) (known : HasPlace lds.cacheIndex handle index)
      (bits : lidar.livoxConfig.setBits = (lds.lidars index).livoxConfig.setBits &&& ~~~setting.bit)
      (state : lidar.connectState = if lidar.livoxConfig.setBits = 0 then .sampling else (lds.lidars index).connectState)
      (waits : (handle, .setting setting) ∈ lds.awaited)

theorem lidars_setLidar (lds : LdsLidar α) (index other : Fin 32) (lidar : ConfiguredLidar α) :
    (lds.setLidar index lidar).lidars other = if other = index then lidar else lds.lidars other :=
  Function.update_apply ..

theorem Told.change {lds after : LdsLidar α} {event : Event} {calls : List (SdkCall α)}
    (told : Told lds event after calls) (index : Fin 32) : LidarChange lds event index (after.lidars index) := by
  cases told with
  | @announced handle place rest known plain =>
    simp only [call, lidars_setLidar]
    split
    next same =>
      subst same
      exact .announced rfl known rfl rfl
    next => exact .kept rfl rfl
  | added =>
    simp only [call, lidars_setLidar]
    split
    next same =>
      subst same
      exact .kept rfl rfl
    next => exact .kept rfl rfl
  | refused | answered => exact .kept rfl rfl
  | acknowledged waits known bits state =>
    simp only [call, lidars_setLidar]
    split
    next same =>
      subst same
      exact .acknowledged rfl known bits state waits
    next => exact .kept rfl rfl

theorem Told.place_kept {lds after : LdsLidar α} {event : Event} {calls : List (SdkCall α)}
    (told : Told lds event after calls) {handle : BitVec 32} {index : Fin 32}
    (known : HasPlace lds.cacheIndex handle index) : HasPlace after.cacheIndex handle index := by
  cases told with
  | announced | refused | acknowledged | answered => exact known
  | @added other _ _ absent =>
    have different : handle ≠ other := by
      rintro rfl
      cases absent.symm.trans known
    simp only [HasPlace, call, setLidar, mapIndex_mark, if_neg different]
    exact known

theorem Told.place_before {lds after : LdsLidar α} {event : Event} {calls : List (SdkCall α)}
    (told : Told lds event after calls) {handle : BitVec 32} {index : Fin 32}
    (silent : event ≠ .lidarInfoChange handle) (known : HasPlace after.cacheIndex handle index) :
    HasPlace lds.cacheIndex handle index := by
  cases told with
  | announced | refused | acknowledged | answered => exact known
  | @added other _ _ absent =>
    have different : handle ≠ other := fun same => silent (same ▸ rfl)
    simp only [HasPlace, call, setLidar, mapIndex_mark, if_neg different] at known
    exact known

theorem Told.searchable {lds after : LdsLidar α} {event : Event} {calls : List (SdkCall α)}
    (told : Told lds event after calls) (before : Searchable lds.cacheIndex) : Searchable after.cacheIndex := by
  cases told with
  | announced | refused | acknowledged | answered => exact before
  | added absent free =>
    obtain ⟨outputs, held⟩ := before
    exact ⟨_, held.took free⟩

/-- A lidar that was asked for a setting samples as soon as nothing is left to acknowledge. -/
def Announced (lds : LdsLidar α) (handle : BitVec 32) : Prop :=
  ∃ index, HasPlace lds.cacheIndex handle index ∧
    ((lds.lidars index).livoxConfig.setBits ≠ 0 ∨ (lds.lidars index).connectState = .sampling)

theorem Announced.step {lds after : LdsLidar α} {event : Event} {calls : List (SdkCall α)} {handle : BitVec 32}
    (announced : Announced lds handle) (told : Told lds event after calls) : Announced after handle := by
  obtain ⟨index, known, pending⟩ := announced
  refine ⟨index, told.place_kept known, ?_⟩
  cases told.change index with
  | kept bits state => rwa [bits, state]
  | announced _ _ bits state =>
    rw [bits, state]
    exact pending.imp_left requestSettings_nonzero
  | acknowledged _ _ _ state =>
    rw [state]
    by_cases clear : (after.lidars index).livoxConfig.setBits = 0
    · exact .inr (if_pos clear)
    · exact .inl clear

/-- What the replies are about: settings that were asked of announced lidars. -/
def Pertinent (lds : LdsLidar α) : Prop :=
  ∀ handle setting, (handle, .setting setting) ∈ lds.awaited → Announced lds handle

theorem opened_by_announcement {lds after : LdsLidar α} {calls : List (SdkCall α)} {handle other : BitVec 32}
    {setting : Setting} {value : Int} (told : Told lds (.lidarInfoChange other) after calls)
    (called : .set handle setting value ∈ calls) :
    ∃ index, HasPlace lds.cacheIndex handle index ∧ Open (after.lidars index) setting := by
  cases told with
  | @announced _ index rest known plain =>
    obtain ⟨rfl, asks, _⟩ := mem_requestSettings.mp ((List.mem_append.mp called).resolve_right (plain _ _ _))
    refine ⟨index, known, ?_⟩
    simp only [call, lidars_setLidar, if_true]
    rw [Open, withSetBits, requestSettings_getLsbD]
    simp [asks]
  | added _ _ plain => exact absurd called (plain _ _ _)
  | refused => cases called

theorem announced_of_call {lds after : LdsLidar α} {event : Event} {calls : List (SdkCall α)} {handle : BitVec 32}
    {setting : Setting} {value : Int} (pertinent : Pertinent lds) (told : Told lds event after calls)
    (called : .set handle setting value ∈ calls) : Announced after handle := by
  cases event with
  | lidarInfoChange =>
    obtain ⟨index, known, opened⟩ := opened_by_announcement told called
    exact ⟨index, told.place_kept known, .inl opened.nonzero⟩
  | reply =>
    cases told with
    | acknowledged => cases called
    | answered waits sets again unknown =>
      obtain ⟨rfl, rfl, _⟩ := sets _ _ _ called
      obtain ⟨index, known, pending⟩ := pertinent _ _ waits
      exact ⟨index, known, pending⟩

theorem mem_awaited {lds after : LdsLidar α} {event : Event} {calls : List (SdkCall α)} {handle : BitVec 32}
    {setting : Setting} (told : Told lds event after calls) (waits : (handle, .setting setting) ∈ after.awaited) :
    (handle, .setting setting) ∈ lds.awaited ∨ ∃ value, .set handle setting value ∈ calls := by
  have split {before : List (BitVec 32 × Asked)} (member : (handle, .setting setting) ∈ before ++ calls.map SdkCall.asked) :
      (handle, .setting setting) ∈ before ∨ ∃ value, .set handle setting value ∈ calls := by
    refine (List.mem_append.mp member).imp_right fun called => ?_
    obtain ⟨call, inside, same⟩ := List.mem_map.mp called
    cases call with
    | set other wanted value =>
      obtain ⟨rfl, equal⟩ := Prod.mk.inj same
      obtain rfl := Asked.setting.inj equal
      exact ⟨value, inside⟩
    | setInstallAttitude | setWorkModeNormal | enableImuData => cases (Prod.mk.inj same).2
  cases told with
  | announced | added | refused => exact split waits
  | acknowledged | answered => exact (split waits).imp_left List.mem_of_mem_erase

theorem Pertinent.step {lds after : LdsLidar α} {event : Event} {calls : List (SdkCall α)} (pertinent : Pertinent lds)
    (told : Told lds event after calls) : Pertinent after := by
  intro handle setting waits
  rcases mem_awaited told waits with before | ⟨value, called⟩
  · exact (pertinent handle setting before).step told
  · exact announced_of_call pertinent told called

/-- Every open setting of a lidar has its reply under way. -/
def Underway (handle : BitVec 32) (lds : LdsLidar α) : Prop :=
  ∀ index setting, HasPlace lds.cacheIndex handle index → Open (lds.lidars index) setting →
    (handle, .setting setting) ∈ lds.awaited

/-- A place that was never given has nothing asked of it. -/
def Untouched (lds : LdsLidar α) : Prop :=
  ∀ index, lds.cacheIndex.indexCache index = false → (lds.lidars index).livoxConfig.setBits = 0

theorem HasPlace.index_eq {cache : CacheIndex} {handle : BitVec 32} {one other : Fin 32}
    (first : HasPlace cache handle one) (second : HasPlace cache handle other) : one = other :=
  Option.some.inj (first.symm.trans second)

theorem Untouched.step {lds after : LdsLidar α} {event : Event} {calls : List (SdkCall α)} (untouched : Untouched lds)
    (searchable : Searchable lds.cacheIndex) (told : Told lds event after calls) : Untouched after := by
  intro index free
  have before : lds.cacheIndex.indexCache index = false := by
    cases told with
    | announced | refused | acknowledged | answered => exact free
    | added =>
      simp only [call, setLidar, indexCache_mark] at free
      split at free
      next => cases free
      next => exact free
  have unknown {handle : BitVec 32} (known : HasPlace lds.cacheIndex handle index) : False := by
    rw [searchable.marked known] at before
    cases before
  cases told.change index with
  | kept bits => rw [bits, untouched index before]
  | announced _ known => exact (unknown known).elim
  | acknowledged _ known => exact (unknown known).elim

theorem awaited_kept {lds after : LdsLidar α} {event : Event} {calls : List (SdkCall α)} {handle : BitVec 32}
    {setting : Setting} {index : Fin 32} (told : Told lds event after calls) (known : HasPlace lds.cacheIndex handle index)
    (waits : (handle, .setting setting) ∈ lds.awaited) : (handle, .setting setting) ∈ after.awaited ∨
      ∃ status response, event = .reply handle (.setting setting) status response ∧ status ≠ .timeout := by
  cases told with
  | announced | added | refused => exact .inl (List.mem_append_left _ waits)
  | @acknowledged other _ wanted response =>
    by_cases same : (handle, Asked.setting setting) = (other, .setting wanted)
    · obtain ⟨rfl, equal⟩ := Prod.mk.inj same
      obtain rfl := Asked.setting.inj equal
      exact .inr ⟨_, _, rfl, by simp⟩
    · exact .inl (List.mem_append_left _ ((List.mem_erase_of_ne same).mpr waits))
  | @answered other asked status response calls _ _ again =>
    by_cases same : (handle, Asked.setting setting) = (other, asked)
    · obtain ⟨rfl, rfl⟩ := Prod.mk.inj same
      by_cases late : status = .timeout
      · obtain ⟨value, called⟩ := again setting index rfl late known
        exact .inl (List.mem_append_right _ (List.mem_map.mpr ⟨_, called, rfl⟩))
      · exact .inr ⟨_, _, rfl, late⟩
    · exact .inl (List.mem_append_left _ ((List.mem_erase_of_ne same).mpr waits))

theorem getLsbD_clear (bits : BitVec 32) (setting other : Setting) :
    (bits &&& ~~~setting.bit).getLsbD (settingPlace other) = (bits.getLsbD (settingPlace other) && !decide (setting = other)) := by
  have inside : settingPlace other < 32 := by cases other <;> decide
  rw [BitVec.getLsbD_and, BitVec.getLsbD_not, getLsbD_bit]
  simp [inside]

theorem Underway.step {lds after : LdsLidar α} {event : Event} {calls : List (SdkCall α)} {handle : BitVec 32}
    (underway : Underway handle lds) (searchable : Searchable lds.cacheIndex) (untouched : Untouched lds)
    (told : Told lds event after calls)
    (fine : ∀ setting response, event ≠ .reply handle (.setting setting) .failure response) :
    Underway handle after := by
  intro index setting place opened
  cases told with
  | @announced other spot rest known =>
    simp only [call, lidars_setLidar] at opened
    split at opened
    next same =>
      subst same
      obtain rfl := searchable.apart place known
      rw [Open, withSetBits, requestSettings_getLsbD, Bool.or_eq_true, decide_eq_true_iff] at opened
      rcases opened with before | asks
      · exact List.mem_append_left _ (underway index setting place before)
      · have called : .set handle setting _ ∈ (requestSettings (lds.lidars index).livoxConfig handle).2 :=
          mem_requestSettings.mpr ⟨rfl, asks, rfl⟩
        exact List.mem_append_right _ (List.mem_map.mpr ⟨.set handle setting _, List.mem_append_left _ called, rfl⟩)
    next => exact List.mem_append_left _ (underway index setting place opened)
  | @added other spot _ absent free =>
    simp only [call, lidars_setLidar] at opened
    simp only [HasPlace, call, setLidar, mapIndex_mark] at place
    split at place
    next =>
      obtain rfl := Option.some.inj place
      rw [if_pos rfl] at opened
      exact absurd (untouched spot free) (Open.nonzero opened)
    next =>
      split at opened
      next same =>
        subst same
        exact List.mem_append_left _ (underway index setting place opened)
      next => exact List.mem_append_left _ (underway index setting place opened)
  | refused => exact List.mem_append_left _ (underway index setting place opened)
  | @acknowledged other spot wanted response lidar waits known bits state =>
    simp only [call, lidars_setLidar] at opened
    split at opened
    next same =>
      subst same
      rw [Open, bits, getLsbD_clear, Bool.and_eq_true, Bool.not_eq_true', decide_eq_false_iff_not] at opened
      have different : (handle, Asked.setting setting) ≠ (other, .setting wanted) := by
        intro same
        exact opened.2 (Asked.setting.inj (Prod.mk.inj same).2).symm
      exact List.mem_append_left _ ((List.mem_erase_of_ne different).mpr (underway index setting place opened.1))
    next apart =>
      have different : (handle, Asked.setting setting) ≠ (other, .setting wanted) := by
        intro same
        obtain ⟨rfl, _⟩ := Prod.mk.inj same
        exact apart (HasPlace.index_eq place known)
      exact List.mem_append_left _ ((List.mem_erase_of_ne different).mpr (underway index setting place opened))
  | @answered other asked status response calls waits sets again unknown =>
    have before := underway index setting place opened
    have told : Told lds (.reply other asked status response) _ calls := .answered waits sets again unknown
    rcases awaited_kept told place before with still | ⟨_, _, same, prompt⟩
    · exact still
    · obtain ⟨rfl, rfl, rfl, rfl⟩ := Event.reply.inj same
      cases status with
      | success => exact absurd place (unknown setting index rfl rfl)
      | timeout => exact absurd rfl prompt
      | failure => exact absurd rfl (fine setting response)

/-- Nothing but the four settings is asked for in the bits. -/
def Proper (lds : LdsLidar α) : Prop := ∀ index, (lds.lidars index).livoxConfig.setBits.toNat < 2 ^ 4

theorem bit_lt (setting : Setting) : setting.bit.toNat < 2 ^ 4 := by cases setting <;> decide

theorem requestSetting_lt (config : UserLivoxLidarConfig α) (handle : BitVec 32) (setting : Setting) :
    (requestSetting config handle setting).1.toNat < 2 ^ 4 := by
  rw [requestSetting]
  split
  · exact bit_lt setting
  · exact Nat.two_pow_pos 4

theorem Proper.step {lds after : LdsLidar α} {event : Event} {calls : List (SdkCall α)} (proper : Proper lds)
    (told : Told lds event after calls) : Proper after := by
  intro index
  have small := proper index
  cases told.change index with
  | kept bits => rwa [bits]
  | announced _ _ bits =>
    rw [bits]
    simp only [requestSettings, BitVec.toNat_or]
    refine Nat.or_lt_two_pow (Nat.or_lt_two_pow (Nat.or_lt_two_pow (Nat.or_lt_two_pow small ?_) ?_) ?_) ?_
    all_goals exact requestSetting_lt ..
  | acknowledged _ _ bits =>
    rw [bits, BitVec.toNat_and]
    exact Nat.and_le_left.trans_lt small

private theorem nonzero_testBit : ∀ bits < 2 ^ 4, bits ≠ 0 →
    bits.testBit 0 ∨ bits.testBit 1 ∨ bits.testBit 2 ∨ bits.testBit 3 := by
  decide

theorem Proper.exists_open {lds : LdsLidar α} {index : Fin 32} (proper : Proper lds)
    (nonzero : (lds.lidars index).livoxConfig.setBits ≠ 0) : ∃ setting, Open (lds.lidars index) setting := by
  have positive : (lds.lidars index).livoxConfig.setBits.toNat ≠ 0 := fun zero => nonzero (BitVec.eq_of_toNat_eq zero)
  rcases nonzero_testBit _ (proper index) positive with first | second | third | fourth
  · exact ⟨.dataType, first⟩
  · exact ⟨.scanPattern, second⟩
  · exact ⟨.blindSpot, third⟩
  · exact ⟨.dualEmit, fourth⟩

/-- What holds in every run. -/
structure Followed (lds : LdsLidar α) : Prop where
  searchable : Searchable lds.cacheIndex
  untouched : Untouched lds
  pertinent : Pertinent lds
  proper : Proper lds

theorem Quiet.followed {lds : LdsLidar α} (quiet : Quiet lds) : Followed lds where
  searchable := quiet.searchable
  untouched index _ := quiet.clear index
  pertinent := by simp [Pertinent, quiet.silent]
  proper index := by simp [quiet.clear index]

theorem Followed.step {lds after : LdsLidar α} {event : Event} {calls : List (SdkCall α)} (followed : Followed lds)
    (told : Told lds event after calls) : Followed after where
  searchable := told.searchable followed.searchable
  untouched := followed.untouched.step followed.searchable told
  pertinent := followed.pertinent.step told
  proper := followed.proper.step told

section Runs
variable [Zero α] {entries : List (LidarEntry α)} {lds : LdsLidar α} {handle : BitVec 32} {setting : Setting}
  {history : List (Entry (LdsLidar α) Event (SdkCall α))}

theorem run_followed (run : (ldsLidar entries).Run history lds) : Followed lds :=
  run.invariant Followed (quiet_initial entries).followed fun taken followed => followed.step (told_of_step taken)

end Runs

end FlightStack.Proofs
