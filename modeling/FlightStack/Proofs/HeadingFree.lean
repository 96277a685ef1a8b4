import FlightStack.Library.Views
import FlightStack.Proofs.Follower

/-! The heading does not change the flown path. In the world, the follower is a machine
that knows no heading: its only memory of one, the cached error, turns with it. -/

namespace FlightStack.Proofs
open BaseController

/-- What a call of the follower finds: the clock, the vehicle, and the segment. -/
structure Leg (α : Type) where
  reading : Int
  position : Position α
  start : Position α
  goal : Position α

/-- Calls of `publish_position_setpoint_trajectory` at a constant yaw, each with a leg
and a target yaw. A call that throws ends the node. -/
def follower {α : Type} [Arithmetic α] (config : Config α) (yaw : α) :
    Machine (CrossTrack α) (Leg α × α) (Output α) where
  initial := (BaseController.initial config).cross
  step cross call :=
    match publishPositionSetpointTrajectory config (.now call.1.reading) call.1.position yaw call.1.start call.1.goal
      call.2 cross with
    | .ok (after, published) => some (after, [published])
    | .error _ => none

/-- The follower in the world. Its state is the error of the last call and the time of
it; it puts out the velocity, horizontal and vertical, where the segment has a direction. -/
noncomputable def worldFollower (startTime : Int) : Machine (ℂ × Time) (Leg ℝ) (Option (ℂ × ℝ)) where
  initial := (0, .now startTime)
  step cached leg :=
    if segmentLength leg.start leg.goal < 1e-6 then some (cached, [none])
    else match (Time.now leg.reading).sub cached.2 with
      | .ok span => some ((footprint (crossTrack leg.start leg.goal leg.position), .now leg.reading),
          [some (worldVelocity leg.start leg.goal leg.position (seconds span) cached.1,
            -1 * (crossTrack leg.start leg.goal leg.position).z)])
      | .error _ => none

/-- The linear velocity of a setpoint, in the world. -/
noncomputable def linearVelocity (yaw : ℝ) : Output ℝ → Option (ℂ × ℝ)
  | .velocitySetpoint vx vy vz _ => some (toWorld yaw ⟨vx, vy⟩, vz)
  | _ => none

/-- How the follower is seen from the world. -/
noncomputable def fromWorld (yaw : ℝ) : View (CrossTrack ℝ) (Leg ℝ × ℝ) (Output ℝ) (ℂ × Time) (Leg ℝ)
    (Option (ℂ × ℝ)) where
  state cross := (toWorld yaw (cachedError cross), cross.lastCrossTime)
  event call := call.1
  output := linearVelocity yaw

theorem follower_shows (config : Config ℝ) (yaw : ℝ) :
    (fromWorld yaw).Shows (follower config yaw) (worldFollower config.startTime) := by
  intro cross call after outputs taken
  obtain ⟨⟨reading, position, start, goal⟩, targetYaw⟩ := call
  simp only [follower] at taken
  rcases lt_or_ge (segmentLength start goal) 1e-6 with short | long
  · rw [follow_short position config _ yaw targetYaw cross short] at taken
    cases taken
    exact if_pos short
  · rw [follow_long position config _ yaw targetYaw cross long] at taken
    refine (if_neg (not_lt.mpr long)).trans ?_
    change (match (Time.now reading).sub cross.lastCrossTime with | .ok span => _ | .error _ => _) = _
    cases elapsed : (Time.now reading).sub cross.lastCrossTime with
    | error fault =>
      rw [elapsed] at taken
      cases taken
    | ok span =>
      rw [elapsed] at taken
      simp only [Except.map] at taken
      obtain ⟨vx, vy, rate, sent, world⟩ :=
        steer_world start goal position config (.now reading) yaw targetYaw cross (seconds span)
      have cached := cachedError_steer start goal position config (.now reading) yaw targetYaw cross (seconds span)
      have stamped : (steer start goal position config (.now reading) yaw targetYaw cross (seconds span)).1.lastCrossTime =
          .now reading := rfl
      generalize steer start goal position config (.now reading) yaw targetYaw cross (seconds span) = result
        at taken sent cached stamped
      cases taken
      simp only [fromWorld, List.map_singleton, sent, linearVelocity, world, cached, stamped]

/-- No call throws: the time of the last one is on the node's clock. -/
theorem follower_runs (config : Config ℝ) (yaw : ℝ) (calls : List (Leg ℝ × ℝ)) :
    ∃ history cross, (follower config yaw).Run history cross ∧ history.map Entry.event = calls := by
  apply (follower config yaw).runs fun cross => cross.lastCrossTime.clock = .ros
  · intro cross call clock
    obtain ⟨after, published, followed, kept⟩ := follow_ok config call.1.reading call.1.position call.1.start
      call.1.goal yaw call.2 clock
    refine ⟨after, [published], ?_, kept⟩
    simp only [follower, followed]
  · rfl

/-- Over the same legs, two constant headings give the same velocities in the world,
whatever the target yaws. -/
theorem heading_free (config : Config ℝ) (p q : ℝ) (first second : List (Leg ℝ × ℝ))
    (agree : first.map Prod.fst = second.map Prod.fst) : ∃ history cross history' cross',
    (follower config p).Run history cross ∧ history.map Entry.event = first ∧
    (follower config q).Run history' cross' ∧ history'.map Entry.event = second ∧
    history.map (fun entry => entry.outputs.map (linearVelocity p)) =
      history'.map fun entry => entry.outputs.map (linearVelocity q) := by
  obtain ⟨history, cross, run, events⟩ := follower_runs config p first
  obtain ⟨history', cross', run', events'⟩ := follower_runs config q second
  refine ⟨history, cross, history', cross', run, events, run', events', ?_⟩
  have still (yaw : ℝ) : toWorld yaw (cachedError (BaseController.initial config).cross) = 0 := map_zero _
  apply Machine.Path.alike (follower_shows config p) (follower_shows config q) run run'
  · exact congrArg (·, Time.now config.startTime) ((still p).trans (still q).symm)
  · rw [← events, ← events', List.map_map, List.map_map] at agree
    exact agree

/-- Twice beside a segment, and then beside the one that turns off at its end -/
noncomputable def turningLegs : List (Leg ℝ) :=
  [⟨0, ⟨0, 1, 1⟩, ⟨0, 0, 1⟩, ⟨1, 0, 1⟩⟩, ⟨1000000000, ⟨0.5, 0.5, 1⟩, ⟨0, 0, 1⟩, ⟨1, 0, 1⟩⟩,
    ⟨2000000000, ⟨1.5, 0, 1⟩, ⟨1, 0, 1⟩, ⟨1, 1, 2⟩⟩]

theorem heading_free_turned : ∃ history history' : List (Entry (CrossTrack ℝ) (Leg ℝ × ℝ) (Output ℝ)),
    history.map (fun entry => entry.event.1) = turningLegs ∧ history'.map (fun entry => entry.event.1) = turningLegs ∧
    history.map (fun entry => entry.outputs.map (linearVelocity 0)) =
      history'.map fun entry => entry.outputs.map (linearVelocity 1) := by
  have legs (targetYaw : ℝ) : (turningLegs.map (·, targetYaw)).map Prod.fst = turningLegs := by
    rw [List.map_map]
    exact List.map_id _
  obtain ⟨history, _, history', _, _, events, _, events', same⟩ :=
    heading_free (TaskController.constructDefault 0 fun _ => (0, 0, 0)) 0 1 (turningLegs.map (·, 0)) (turningLegs.map (·, 1))
      ((legs 0).trans (legs 1).symm)
  refine ⟨history, history', ?_, ?_, same⟩
  · rw [← legs 0, ← events, List.map_map]
    rfl
  · rw [← legs 1, ← events', List.map_map]
    rfl

end FlightStack.Proofs
