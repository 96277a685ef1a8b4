import FlightStack.Proofs.Handshake

/-! A lidar samples when, and only when, the settings asked of it were acknowledged. -/

namespace FlightStack.Proofs
open LdsLidar
variable {α : Type} {lds after : LdsLidar α} {event : Event} {calls : List (SdkCall α)} {handle : BitVec 32}
  {setting : Setting} {index : Fin 32}

/-- Only its acknowledgement closes a setting. -/
theorem acknowledged_of_closed (searchable : Searchable lds.cacheIndex) (known : HasPlace lds.cacheIndex handle index)
    (step : Told lds event after calls) (opened : Open (lds.lidars index) setting)
    (closed : ¬ Open (after.lidars index) setting) :
    ∃ response, event = .reply handle (.setting setting) .success response := by
  cases step.change index with
  | kept bits =>
    rw [Open, bits] at closed
    exact absurd opened closed
  | announced _ _ bits =>
    rw [Open, bits, requestSettings_getLsbD, opened] at closed
    exact absurd rfl closed
  | @acknowledged other acked response same place bits =>
    obtain rfl := searchable.apart known place
    rw [Open, bits, getLsbD_clear, opened, Bool.true_and, Bool.not_eq_true', decide_eq_false_iff_not, not_not] at closed
    exact ⟨response, closed ▸ same⟩

theorem acknowledged_closes {response : Bool} (known : HasPlace lds.cacheIndex handle index)
    (step : Told lds (.reply handle (.setting setting) .success response) after calls) :
    ¬ Open (after.lidars index) setting := by
  cases step with
  | acknowledged waits place bits =>
    obtain rfl := HasPlace.index_eq known place
    simp only [call, lidars_setLidar, if_true]
    rw [Open, bits, getLsbD_clear]
    simp
  | answered waits sets again unknown => exact absurd known (unknown setting index rfl rfl)

theorem open_before (searchable : Searchable lds.cacheIndex) (known : HasPlace lds.cacheIndex handle index)
    (step : Told lds event after calls) (silent : event ≠ .lidarInfoChange handle)
    (opened : Open (after.lidars index) setting) : Open (lds.lidars index) setting := by
  cases step.change index with
  | kept bits => rwa [Open, bits] at opened
  | announced same place =>
    obtain rfl := searchable.apart known place
    exact absurd same silent
  | acknowledged _ _ bits =>
    rw [Open, bits, getLsbD_clear, Bool.and_eq_true] at opened
    exact opened.1

theorem samples_by_acknowledgement (step : Told lds event after calls) (before : (lds.lidars index).connectState ≠ .sampling)
    (now : (after.lidars index).connectState = .sampling) : (after.lidars index).livoxConfig.setBits = 0 := by
  cases step.change index with
  | kept _ state => exact absurd (state ▸ now) before
  | announced _ _ _ state => exact absurd (state ▸ now) before
  | acknowledged _ _ _ state =>
    by_contra nonzero
    rw [state, if_neg nonzero] at now
    exact before now

/-- What a lidar that was announced once has come to, by the replies since. -/
structure AnnouncedOnce (config : UserLivoxLidarConfig α) (handle : BitVec 32) (index : Fin 32)
    (replies : List Event) (lds : LdsLidar α) : Prop where
  opened : ∀ setting, Open (lds.lidars index) setting ↔ config.setting setting ≠ -1 ∧
    ∀ response, .reply handle (.setting setting) .success response ∉ replies
  sampling : (lds.lidars index).connectState = .sampling ↔
    (∃ setting, config.setting setting ≠ -1) ∧ (lds.lidars index).livoxConfig.setBits = 0

theorem AnnouncedOnce.step {config : UserLivoxLidarConfig α} {replies : List Event}
    (once : AnnouncedOnce config handle index replies lds) (followed : Followed lds)
    (known : HasPlace lds.cacheIndex handle index) (step : Told lds event after calls)
    (silent : event ≠ .lidarInfoChange handle) : AnnouncedOnce config handle index (replies ++ [event]) after where
  opened setting := by
    simp only [List.mem_append, List.mem_singleton, not_or, forall_and]
    constructor
    · intro opened
      have before := (once.opened setting).mp (open_before followed.searchable known step silent opened)
      refine ⟨before.1, before.2, ?_⟩
      rintro response rfl
      exact acknowledged_closes known step opened
    · rintro ⟨asks, earlier, other⟩
      by_contra closed
      have before := (once.opened setting).mpr ⟨asks, earlier⟩
      obtain ⟨response, rfl⟩ := acknowledged_of_closed followed.searchable known step before closed
      exact other response rfl
  sampling := by
    cases step.change index with
    | kept bits state => rw [bits, state, once.sampling]
    | announced same place =>
      obtain rfl := followed.searchable.apart known place
      exact absurd same silent
    | acknowledged _ place bits state waits =>
      obtain rfl := followed.searchable.apart known place
      have asked : ∃ setting, config.setting setting ≠ -1 := by
        obtain ⟨other, held, pending⟩ := followed.pertinent _ _ waits
        obtain rfl := HasPlace.index_eq known held
        rcases pending with nonzero | sampling
        · obtain ⟨setting, opened⟩ := followed.proper.exists_open nonzero
          exact ⟨setting, ((once.opened setting).mp opened).1⟩
        · exact (once.sampling.mp sampling).1
      rw [state]
      by_cases clear : (after.lidars index).livoxConfig.setBits = 0
      · simp [clear, asked]
      · rw [if_neg clear, once.sampling]
        refine and_congr_right fun _ => iff_of_false (fun before => ?_) clear
        rw [bits, before] at clear
        simp at clear

section Runs
variable [Zero α] {entries : List (LidarEntry α)} {past middle future history : List (Entry (LdsLidar α) Event (SdkCall α))}
  {told turn : Entry (LdsLidar α) Event (SdkCall α)}

theorem path_place_kept {start : LdsLidar α} (path : (ldsLidar entries).Path start history lds)
    (known : HasPlace start.cacheIndex handle index) : HasPlace lds.cacheIndex handle index :=
  path.invariant (HasPlace ·.cacheIndex handle index) known fun _ _ taken before => (told_of_step taken).place_kept before

/-- Nothing is asked of a lidar before it is announced. -/
theorem unannounced_clear (run : (ldsLidar entries).Run history lds)
    (silent : ∀ entry ∈ history, entry.event ≠ .lidarInfoChange handle)
    (known : HasPlace lds.cacheIndex handle index) :
    (lds.lidars index).livoxConfig.setBits = 0 ∧ (lds.lidars index).connectState = .off := by
  have kept := Machine.Path.invariant run (fun state => Followed state ∧ (HasPlace state.cacheIndex handle index →
    (state.lidars index).livoxConfig.setBits = 0 ∧ (state.lidars index).connectState = .off)) ?_ ?_
  · exact kept.2 known
  · have quiet := quiet_initial entries
    exact ⟨quiet.followed, fun _ => ⟨quiet.clear index, quiet.off index⟩⟩
  · rintro entry member taken ⟨followed, before⟩
    have step := told_of_step taken
    refine ⟨followed.step step, fun later => ?_⟩
    have placed := step.place_before (silent entry member) later
    obtain ⟨clear, off⟩ := before placed
    cases step.change index with
    | kept bits state => exact ⟨bits.trans clear, state.trans off⟩
    | announced same place =>
      obtain rfl := followed.searchable.apart placed place
      exact absurd same (silent entry member)
    | acknowledged _ place _ _ waits =>
      obtain rfl := followed.searchable.apart placed place
      obtain ⟨other, known, pending⟩ := followed.pertinent _ _ waits
      obtain rfl := HasPlace.index_eq placed known
      rcases pending with nonzero | sampling
      · exact absurd clear nonzero
      · cases off.symm.trans sampling

theorem announcedOnce_start (run : (ldsLidar entries).Run (past ++ told :: future) lds)
    (announced : told.event = .lidarInfoChange handle)
    (once : ∀ entry ∈ past, entry.event ≠ .lidarInfoChange handle) (known : HasPlace told.before.cacheIndex handle index) :
    AnnouncedOnce (told.before.lidars index).livoxConfig handle index [] told.after := by
  obtain ⟨reached, taken, _⟩ := run.entry
  obtain ⟨clear, off⟩ := unannounced_clear reached once known
  have step := told_of_step taken
  have searchable := (run_followed reached).searchable
  rw [announced] at step
  have bits : (told.after.lidars index).livoxConfig.setBits = (requestSettings (told.before.lidars index).livoxConfig handle).1 ∧
      (told.after.lidars index).connectState = (told.before.lidars index).connectState := by
    generalize told.after = after at step
    generalize told.outputs = calls at step
    cases step with
    | announced place =>
      obtain rfl := HasPlace.index_eq known place
      simp [call, lidars_setLidar, withSetBits]
    | added absent => cases absent.symm.trans known
    | refused absent => cases absent.symm.trans known
  have opened (setting : Setting) : Open (told.after.lidars index) setting ↔
      (told.before.lidars index).livoxConfig.setting setting ≠ -1 := by
    rw [Open, bits.1, requestSettings_getLsbD, clear]
    simp
  refine ⟨fun setting => by simp [opened], iff_of_false (by simp [bits.2, off]) ?_⟩
  rintro ⟨⟨setting, asked⟩, zero⟩
  exact ((opened setting).mpr asked).nonzero zero

theorem AnnouncedOnce.path {config : UserLivoxLidarConfig α} {replies : List Event} {start : LdsLidar α}
    (once : AnnouncedOnce config handle index replies start) (followed : Followed start)
    (known : HasPlace start.cacheIndex handle index) (path : (ldsLidar entries).Path start history lds)
    (silent : ∀ entry ∈ history, entry.event ≠ .lidarInfoChange handle) :
    AnnouncedOnce config handle index (replies ++ history.map Entry.event) lds ∧ Followed lds := by
  induction path with
  | refl => simpa using ⟨once, followed⟩
  | snoc earlier taken ih =>
    rw [List.forall_mem_append] at silent
    obtain ⟨before, reached⟩ := ih silent.1
    have step := told_of_step taken
    have now := before.step reached (path_place_kept earlier known) step (silent.2 _ (List.mem_singleton.mpr rfl))
    rw [List.map_append, ← List.append_assoc]
    exact ⟨now, reached.step step⟩

/-- A lidar that is announced once samples exactly when a setting was asked of it and
each one that was has been acknowledged. -/
theorem samples_iff (run : (ldsLidar entries).Run (past ++ told :: future) lds)
    (announced : told.event = .lidarInfoChange handle)
    (once : ∀ entry ∈ past ++ future, entry.event ≠ .lidarInfoChange handle)
    (known : told.before.getLidarDevice handle = some index) :
    (lds.lidars index).connectState = .sampling ↔
      (∃ setting, (told.before.lidars index).livoxConfig.setting setting ≠ -1) ∧
        ∀ setting, (told.before.lidars index).livoxConfig.setting setting ≠ -1 →
          ∃ entry ∈ future, ∃ response, entry.event = .reply handle (.setting setting) .success response := by
  rw [List.forall_mem_append] at once
  have start := announcedOnce_start run announced once.1 known
  obtain ⟨reached, taken, later⟩ := run.entry
  have followed := run_followed (reached.snoc taken)
  have placed := (told_of_step taken).place_kept known
  obtain ⟨final, reached⟩ := start.path followed placed later once.2
  rw [final.sampling]
  refine and_congr_right fun _ => ⟨fun clear setting asked => ?_, fun acknowledged => ?_⟩
  · by_contra missing
    have opened := (final.opened setting).mpr ⟨asked, fun response replied => ?_⟩
    · exact opened.nonzero clear
    · obtain ⟨entry, member, same⟩ := List.mem_map.mp replied
      exact missing ⟨entry, member, response, same⟩
  · by_contra nonzero
    obtain ⟨setting, opened⟩ := reached.proper.exists_open nonzero
    obtain ⟨asked, unreplied⟩ := (final.opened setting).mp opened
    obtain ⟨entry, member, response, same⟩ := acknowledged setting asked
    exact unreplied response (List.mem_map.mpr ⟨entry, member, same⟩)

/-- One lidar of which one setting is asked -/
def onePattern : List (LidarEntry Int) := [{ ip := some 7, patternMode := some 0, extrinsicParameter := ⟨0, 0, 0, 0, 0, 0⟩ }]

theorem samples_iff_one : ∃ told future lds, (ldsLidar onePattern).Run (told :: future) lds ∧
    told.event = .lidarInfoChange 7 ∧ ((lds.lidars 0).connectState = .sampling ↔
      (∃ setting, (told.before.lidars 0).livoxConfig.setting setting ≠ -1) ∧
        ∀ setting, (told.before.lidars 0).livoxConfig.setting setting ≠ -1 →
          ∃ entry ∈ future, ∃ response, entry.event = .reply 7 (.setting setting) .success response) := by
  have recorded : (ldsLidar onePattern).record (ldsLidar onePattern).initial
    [.lidarInfoChange 7, .reply 7 (.setting .scanPattern) .success true] = some ([_, _], _) := rfl
  have run := Machine.path_of_record recorded
  have split : (ldsLidar onePattern).Run ([] ++ _ :: [_]) _ := run
  exact ⟨_, _, _, run, rfl, samples_iff split rfl (by simp) rfl⟩

theorem opened_since {value : Int} {state next last : LdsLidar α} {calls : List (SdkCall α)}
    (asking : (ldsLidar entries).step state (.lidarInfoChange handle) = some (next, calls))
    (called : .set handle setting value ∈ calls) (between : (ldsLidar entries).Path next middle last)
    (known : last.getLidarDevice handle = some index) :
    HasPlace state.cacheIndex handle index ∧ Open (next.lidars index) setting := by
  have step : Told state (.lidarInfoChange handle) next calls := told_of_step asking
  obtain ⟨place, placed, asked⟩ := opened_by_announcement step called
  obtain rfl := HasPlace.index_eq known (path_place_kept between (step.place_kept placed))
  exact ⟨placed, asked⟩

/-- A setting that was open and no longer is has been acknowledged. -/
theorem acknowledged_since {state next last : LdsLidar α} {event : Event} {calls : List (SdkCall α)}
    (reached : (ldsLidar entries).Run past state) (asking : (ldsLidar entries).step state event = some (next, calls))
    (opened : HasPlace state.cacheIndex handle index ∧ Open (next.lidars index) setting)
    (path : (ldsLidar entries).Path next middle last) (closed : ¬ Open (last.lidars index) setting) :
    ∃ entry ∈ middle, ∃ response, entry.event = .reply handle (.setting setting) .success response := by
  obtain ⟨first, entry, rest, split, was, now⟩ := path.origin (fun state => ¬ Open (state.lidars index) setting)
    (not_not.mpr opened.2) closed
  refine ⟨entry, split ▸ List.mem_append_right _ List.mem_cons_self, ?_⟩
  rw [split] at path
  obtain ⟨through, taken, _⟩ := path.entry
  have step : Told state event next calls := told_of_step asking
  have placed : HasPlace entry.before.cacheIndex handle index := path_place_kept through (step.place_kept opened.1)
  have searchable := (run_followed (reached.append (.cons asking through))).searchable
  exact acknowledged_of_closed searchable placed (told_of_step taken) (not_not.mp was) now

/-- When a lidar comes to sample, every setting that was ever asked of it as it was
announced has been acknowledged since. -/
theorem sampling_acknowledged {value : Int} (run : (ldsLidar entries).Run (past ++ told :: middle ++ turn :: future) lds)
    (announced : told.event = .lidarInfoChange handle) (called : .set handle setting value ∈ told.outputs)
    (known : turn.before.getLidarDevice handle = some index)
    (before : (turn.before.lidars index).connectState ≠ .sampling)
    (after : (turn.after.lidars index).connectState = .sampling) :
    ∃ entry ∈ middle ++ [turn], ∃ response, entry.event = .reply handle (.setting setting) .success response := by
  obtain ⟨reached, asking, between, turning⟩ := run.between
  rw [announced] at asking
  apply acknowledged_since reached asking (opened_since asking called between known) (between.snoc turning)
  intro still
  exact still.nonzero (samples_by_acknowledgement (told_of_step turning) before after)

theorem sampling_acknowledged_one : ∃ told turn lds, (ldsLidar onePattern).Run [told, turn] lds ∧
    .set 7 .scanPattern 0 ∈ told.outputs ∧
      ∃ entry ∈ [] ++ [turn], ∃ response, entry.event = .reply 7 (.setting .scanPattern) .success response := by
  have recorded : (ldsLidar onePattern).record (ldsLidar onePattern).initial
    [.lidarInfoChange 7, .reply 7 (.setting .scanPattern) .success true] = some ([_, _], _) := rfl
  have run := Machine.path_of_record recorded
  have called : .set 7 .scanPattern 0 ∈ [SdkCall.set 7 .scanPattern 0, .setInstallAttitude 7 ⟨(0 : Int), 0, 0, 0, 0, 0⟩,
      .setWorkModeNormal 7, .enableImuData 7] := List.mem_cons_self
  have split : (ldsLidar onePattern).Run ([] ++ _ :: [] ++ [_]) _ := run
  exact ⟨_, _, _, run, called, sampling_acknowledged split rfl called rfl (by decide) rfl⟩

/-- A lidar that was asked for a setting samples when no reply about a setting is
under way, unless one of them was a failure. -/
theorem asked_lidar_samples (run : (ldsLidar entries).Run history lds) {value : Int}
    (called : .set handle setting value ∈ history.flatMap Entry.outputs)
    (fine : ∀ entry ∈ history, ∀ setting response, entry.event ≠ .reply handle (.setting setting) .failure response)
    (settled : ∀ setting, (handle, .setting setting) ∉ lds.awaited) :
    ∃ index, lds.getLidarDevice handle = some index ∧ (lds.lidars index).connectState = .sampling := by
  have underway : Followed lds ∧ Underway handle lds := by
    refine Machine.Path.invariant run (fun state => Followed state ∧ Underway handle state) ?_ fun entry member taken before => ?_
    · refine ⟨(quiet_initial entries).followed, fun index _ _ opened => ?_⟩
      exact absurd ((quiet_initial entries).clear index) opened.nonzero
    · have step := told_of_step taken
      exact ⟨before.1.step step, before.2.step before.1.searchable before.1.untouched step (fine entry member)⟩
  obtain ⟨entry, member, call⟩ := List.mem_flatMap.mp called
  obtain ⟨past, future, _, reached, taken, later⟩ := run.mem member
  have announced : Announced lds handle := by
    refine later.invariant (Announced · handle) ?_ fun _ _ step before => before.step (told_of_step step)
    exact announced_of_call (run_followed reached).pertinent (told_of_step taken) call
  obtain ⟨index, known, pending⟩ := announced
  refine ⟨index, known, pending.resolve_left fun nonzero => ?_⟩
  obtain ⟨waits, opened⟩ := underway.1.proper.exists_open nonzero
  exact settled waits (underway.2 index waits known opened)

theorem asked_lidar_samples_one : ∃ history lds, (ldsLidar onePattern).Run history lds ∧
    .set 7 .scanPattern 0 ∈ history.flatMap Entry.outputs ∧
      ∃ index, lds.getLidarDevice 7 = some index ∧ (lds.lidars index).connectState = .sampling := by
  have recorded : (ldsLidar onePattern).record (ldsLidar onePattern).initial
    [.lidarInfoChange 7, .reply 7 (.setting .scanPattern) .success true] = some ([_, _], _) := rfl
  have run := Machine.path_of_record recorded
  have called : .set 7 .scanPattern 0 ∈ [SdkCall.set 7 .scanPattern 0, .setInstallAttitude 7 ⟨(0 : Int), 0, 0, 0, 0, 0⟩,
      .setWorkModeNormal 7, .enableImuData 7] := List.mem_cons_self
  refine ⟨_, _, run, ?asked, asked_lidar_samples run ?asked (by simp) fun setting => ?_⟩
  · exact List.mem_flatMap.mpr ⟨_, List.mem_cons_self, called⟩
  · cases setting <;> decide

end Runs

end FlightStack.Proofs
