import FlightStack.TaskController
import FlightStack.Library.Machine

/-! The stages of a tilt landing. A landing is the calls since the last one below 8 cm.
Its first call always flies to the 45 degree line; the first later one that finds the
vehicle near the line starts the descent, which lasts until the landing is over. -/

namespace FlightStack.Proofs
open BaseController TaskController
variable {α : Type} [Arithmetic α] {config : Config α}

def horizontalDistance (position : Position α) : α := sqrt ((position.x - 0) ^ 2 + (position.y - 0) ^ 2)

/-- Near the 45 degree line, where the distance is as large as the height. -/
def NearLine (position : Position α) : Prop := |horizontalDistance position - position.z| ≤ 0.05

/-- The direction in which stage 1 finds the origin. -/
def moveDirection (position : Position α) : α × α :=
  if 0.1 < horizontalDistance position then
    ((0 - position.x) / horizontalDistance position, (0 - position.y) / horizontalDistance position)
  else (1, 0)

/-- The direction and the speed of stage 2, in the world. -/
def lineVelocity (position : Position α) : α × α :=
  let error := horizontalDistance position - position.z
  let speed := min (2 * |error|) 1
  let direction :=
    if 0 < error then
      ((0 - position.x) / horizontalDistance position, (0 - position.y) / horizontalDistance position)
    else ((position.x - 0) / horizontalDistance position, (position.y - 0) / horizontalDistance position)
  (direction.1 * speed, direction.2 * speed)

/-- The horizontal command of stage 2, in the body. -/
def bodyVelocity (position : Position α) (currentYaw : α) : α × α :=
  if 0.05 < horizontalDistance position then
    ((lineVelocity position).1 * cos (-currentYaw) - (lineVelocity position).2 * sin (-currentYaw),
      (lineVelocity position).1 * sin (-currentYaw) + (lineVelocity position).2 * cos (-currentYaw))
  else (0, 0)

/-- What one call does. -/
inductive Tilted (config : Config α) (position : Position α) (currentYaw : α) (tilt : TiltStage) :
    Bool × TiltStage × List (Output α) → Prop where
  | landed (low : position.z < 0.08) : Tilted config position currentYaw tilt (true, {}, [])
  | approach (high : 0.08 ≤ position.z) (unfinished : tilt.stage1Completed = false)
      (waiting : tilt.stage1Started = false ∨ ¬ NearLine position) :
      Tilted config position currentYaw tilt (false, { tilt with stage1Started := true },
        [publishPositionSetpoint (0 - (moveDirection position).1 * position.z)
          (0 - (moveDirection position).2 * position.z) position.z 0])
  | descend (high : 0.08 ≤ position.z)
      (ready : tilt.stage1Completed = true ∨ tilt.stage1Started = true ∧ NearLine position) :
      Tilted config position currentYaw tilt (false, { tilt with stage1Completed := true },
        [publishVelocityBody config (bodyVelocity position currentYaw).1 (bodyVelocity position currentYaw).2 (-0.25) 0])

theorem tilted (config : Config α) (position : Position α) (currentYaw : α) (tilt : TiltStage) :
    Tilted config position currentYaw tilt (tiltLand config position currentYaw tilt) := by
  rcases lt_or_ge position.z 0.08 with low | high
  · have ran : tiltLand config position currentYaw tilt = (true, {}, []) := if_pos low
    rw [ran]
    exact .landed low
  by_cases waits : tilt.stage1Completed = false ∧ (tilt.stage1Started = false ∨ ¬ NearLine position)
  · have ran : tiltLand config position currentYaw tilt = (false, { tilt with stage1Started := true },
        [publishPositionSetpoint (0 - (moveDirection position).1 * position.z)
          (0 - (moveDirection position).2 * position.z) position.z 0]) := by
      refine (if_neg (not_lt.mpr high)).trans ((if_pos ?_).trans ?_)
      · simpa [NearLine, horizontalDistance] using waits
      · rfl
    rw [ran]
    exact .approach high waits.1 waits.2
  · have ran : tiltLand config position currentYaw tilt = (false, { tilt with stage1Completed := true },
        [publishVelocityBody config (bodyVelocity position currentYaw).1 (bodyVelocity position currentYaw).2
          (-0.25) 0]) := by
      refine (if_neg (not_lt.mpr high)).trans ((if_neg ?_).trans ?_)
      · simpa [NearLine, horizontalDistance] using waits
      · rfl
    rw [ran]
    apply Tilted.descend high
    by_contra early
    simp only [not_or, not_and, Bool.not_eq_true] at early
    refine waits ⟨early.1, ?_⟩
    cases started : tilt.stage1Started with
    | false => exact .inl rfl
    | true => exact .inr (early.2 started)

/-! Landings -/

/-- Calls of `tilt_land`, each with the position and the yaw it finds. What a call
puts out is its result and what it publishes. -/
def tiltLanding (config : Config α) : Machine TiltStage (Position α × α) (Bool × List (Output α)) where
  initial := {}
  step tilt call :=
    let result := tiltLand config call.1 call.2 tilt
    some (result.2.1, [(result.1, result.2.2)])

abbrev TiltEntry (α : Type) := Entry TiltStage (Position α × α) (Bool × List (Output α))

theorem landing_tilted {entry : TiltEntry α}
    (taken : (tiltLanding config).step entry.before entry.event = some (entry.after, entry.outputs)) :
    ∃ result, Tilted config entry.event.1 entry.event.2 entry.before result ∧ result.2.1 = entry.after ∧
      [(result.1, result.2.2)] = entry.outputs := by
  have same := Option.some.inj taken
  exact ⟨_, tilted _ _ _ _, congrArg Prod.fst same, congrArg Prod.snd same⟩

/-- A call after the first of the landing has found the vehicle near the line. -/
def ReachedLine (landing : List (TiltEntry α)) : Prop := ∃ entry ∈ landing.tail, NearLine entry.event.1

theorem reachedLine_concat {landing : List (TiltEntry α)} {entry : TiltEntry α} :
    ReachedLine (landing ++ [entry]) ↔ ReachedLine landing ∨ landing ≠ [] ∧ NearLine entry.event.1 := by
  cases landing with
  | nil => simp [ReachedLine]
  | cons first rest => simp [ReachedLine, or_and_right, exists_or]

/-- What the flags stand for. -/
structure StageOf (landing : List (TiltEntry α)) (tilt : TiltStage) : Prop where
  started : tilt.stage1Started = true ↔ landing ≠ []
  completed : tilt.stage1Completed = true ↔ ReachedLine landing

theorem StageOf.fresh : StageOf ([] : List (TiltEntry α)) {} :=
  ⟨by simp, by simp [ReachedLine]⟩

/-- What the call publishes, by whether the line has been reached. -/
structure Commanded (landing : List (TiltEntry α)) (entry : TiltEntry α) : Prop where
  approach : ¬ ReachedLine (landing ++ [entry]) → ∃ x y yaw,
    entry.outputs = [(false, [.positionSetpoint x y entry.event.1.z yaw])]
  descend : ReachedLine (landing ++ [entry]) → ∃ vx vy rate,
    entry.outputs = [(false, [.velocitySetpoint vx vy (-0.25) rate])]

theorem StageOf.call {landing : List (TiltEntry α)} {entry : TiltEntry α} (stage : StageOf landing entry.before)
    (taken : (tiltLanding config).step entry.before entry.event = some (entry.after, entry.outputs))
    (high : 0.08 ≤ entry.event.1.z) : StageOf (landing ++ [entry]) entry.after ∧ Commanded landing entry := by
  obtain ⟨result, step, after, outputs⟩ := landing_tilted taken
  cases step with
  | landed low => exact absurd low (not_lt.mpr high)
  | approach _ unfinished waiting =>
    have early : ¬ ReachedLine (landing ++ [entry]) := by
      rw [reachedLine_concat, not_or, ← stage.completed, unfinished]
      refine ⟨Bool.false_ne_true, fun near => ?_⟩
      rcases waiting with fresh | far
      · exact Bool.false_ne_true (fresh.symm.trans (stage.started.mpr near.1))
      · exact far near.2
    refine ⟨⟨?_, ?_⟩, fun _ => ⟨_, _, _, outputs.symm⟩, fun reached => absurd reached early⟩
    · exact after ▸ iff_of_true rfl (by simp)
    · exact after ▸ iff_of_false (Bool.eq_false_iff.mp unfinished) early
  | descend _ ready =>
    have started : entry.before.stage1Started = true := by
      rcases ready with completed | near
      · obtain ⟨found, member, _⟩ := stage.completed.mp completed
        exact stage.started.mpr (List.ne_nil_of_mem (List.mem_of_mem_tail member))
      · exact near.1
    have reached : ReachedLine (landing ++ [entry]) := by
      rw [reachedLine_concat, ← stage.completed, ← stage.started]
      exact ready
    refine ⟨⟨?_, ?_⟩, fun early => absurd reached early, fun _ => ⟨_, _, _, outputs.symm⟩⟩
    · exact after ▸ iff_of_true started (by simp)
    · exact after ▸ iff_of_true rfl reached

theorem stage_of_landing {landing : List (TiltEntry α)} {tilt : TiltStage}
    (path : (tiltLanding config).Path {} landing tilt) (high : ∀ entry ∈ landing, 0.08 ≤ entry.event.1.z) :
    StageOf landing tilt := by
  generalize fresh : ({} : TiltStage) = start at path
  induction path with
  | refl => exact fresh ▸ .fresh
  | snoc earlier taken ih =>
    have stage := ih fun entry member => high entry (List.mem_append_left _ member)
    exact (stage.call taken (high _ List.mem_concat_self)).1

/-- The result of a call, and what it leaves and sends by its result. -/
structure Reported (entry : TiltEntry α) (landed : Bool) (published : List (Output α)) : Prop where
  outputs : entry.outputs = [(landed, published)]
  low : landed = true ↔ entry.event.1.z < 0.08
  reset : landed = true → entry.after = {} ∧ published = []
  setpoint : landed = false → ∃ setpoint, published = [setpoint] ∧ setpoint.isSetpoint = true

theorem tilt_reported {entry : TiltEntry α}
    (taken : (tiltLanding config).step entry.before entry.event = some (entry.after, entry.outputs)) :
    ∃ landed published, Reported entry landed published := by
  obtain ⟨result, step, after, outputs⟩ := landing_tilted taken
  cases step with
  | landed low => exact ⟨_, _, outputs.symm, iff_of_true rfl low, fun _ => ⟨after.symm, rfl⟩, nofun⟩
  | approach high | descend high =>
    exact ⟨_, _, outputs.symm, iff_of_false Bool.false_ne_true (not_lt.mpr high), nofun, fun _ => ⟨_, rfl, rfl⟩⟩

/-- The commands of any calls of `tilt_land`, landing by landing. -/
theorem tilt_landings (config : Config α) (calls : List (Position α × α)) : ∃ history tilt,
    (tiltLanding config).Run history tilt ∧ history.map Entry.event = calls ∧
    (∀ entry ∈ history, ∃ landed published, Reported entry landed published) ∧
    ∀ past landing entry future, history = past ++ landing ++ entry :: future →
      (∀ last, past.getLast? = some last → last.event.1.z < 0.08) →
      (∀ call ∈ landing, 0.08 ≤ call.event.1.z) → 0.08 ≤ entry.event.1.z → Commanded landing entry := by
  obtain ⟨history, tilt, run, events⟩ := (tiltLanding config).runs (fun _ => True)
    (fun _ _ _ => ⟨_, _, rfl, trivial⟩) trivial calls
  refine ⟨history, tilt, run, events, fun entry member => tilt_reported (run.taken member), ?_⟩
  intro past landing entry future whole begins high now
  subst whole
  obtain ⟨reached, taken, _⟩ := run.entry
  obtain ⟨fresh, earlier, during⟩ := reached.split
  have same : fresh = {} := by
    rcases List.eq_nil_or_concat past with rfl | ⟨before, last, rfl⟩
    · exact earlier.stays
    · rw [List.concat_eq_append] at earlier begins
      obtain ⟨_, landing, ended⟩ := earlier.entry
      obtain ⟨landed, published, report⟩ := tilt_reported landing
      exact ended.stays.trans (report.reset (report.low.mpr (begins last List.getLast?_concat))).1
  rw [same] at during
  exact ((stage_of_landing during high).call taken now).2

end FlightStack.Proofs
