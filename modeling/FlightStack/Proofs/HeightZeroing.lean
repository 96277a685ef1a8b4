import FlightStack.OdomToPose
import FlightStack.Library.Averages

/-! The height of the vision pose. The node publishes the latest odometry with the
mean height of the first ten messages taken off, and nothing before the eleventh. -/

namespace FlightStack.Proofs
open OdomToPoseNode
variable {α : Type} [Arithmetic α]

abbrev OdomEntry (α : Type) := Entry (OdomToPoseNode α) (OdomEvent α) (Pose α)

/-- The odometry messages of a history, in order. -/
def messages (history : List (OdomEntry α)) : List (Pose α) :=
  history.filterMap fun entry => match entry.event with
    | .odometry msg => some msg
    | .tick => none

omit [Arithmetic α] in
theorem messages_append (first rest : List (OdomEntry α)) : messages (first ++ rest) = messages first ++ messages rest :=
  List.filterMap_append

def heights (poses : List (Pose α)) : List α := poses.map fun pose => pose.position.z

/-- The height at which the lidar starts, once it is known. -/
def groundLevel (received : List (Pose α)) : α := mean (heights (received.take 10))

/-- The pose with its height measured from the given level. -/
def above (level : α) (pose : Pose α) : Pose α :=
  ⟨⟨pose.position.x, pose.position.y, pose.position.z - level⟩, pose.orientation⟩

/-- The node after these messages: it has summed them up, or it has the offset and
the latest of them. -/
inductive Zeroing (received : List (Pose α)) (node : OdomToPoseNode α) : Prop where
  | collecting (few : received.length ≤ 10) (count : node.checktime = received.length)
      (sum : node.sumOffset = (heights received).sum) (unready : node.dataReady = false)
  | zeroed (earlier : List (Pose α)) (latest : Pose α) (whole : received = earlier ++ [latest])
      (enough : 10 ≤ earlier.length) (count : node.checktime = 11) (level : node.offset = groundLevel received)
      (ready : node.dataReady = true) (data : node.sendData = above node.offset latest)

theorem groundLevel_append {received : List (Pose α)} (enough : 10 ≤ received.length) (more : List (Pose α)) :
    groundLevel (received ++ more) = groundLevel received := by
  rw [groundLevel, List.take_append_of_le_length enough, groundLevel]

theorem Zeroing.odometry {received : List (Pose α)} {node : OdomToPoseNode α} (zeroing : Zeroing received node)
    (msg : Pose α) : Zeroing (received ++ [msg]) (node.radarCb msg) := by
  unfold radarCb
  cases zeroing with
  | collecting few count sum unready =>
    split
    next below =>
      refine .collecting ?_ ?_ ?_ unready
      · rw [List.length_append, List.length_singleton]
        omega
      · rw [List.length_append, List.length_singleton, count]
      · simp only [heights, List.map_append, List.sum_append, List.map_singleton, List.sum_singleton, sum]
    next full =>
      have ten : received.length = 10 := by omega
      have level : node.sumOffset / 10 = groundLevel received := by
        rw [groundLevel, ← ten, List.take_length, sum, mean, heights, List.length_map, ten]
        rfl
      rw [if_pos (count.trans ten)]
      refine .zeroed received msg rfl ten.ge ?_ ?_ rfl rfl
      · rw [count, ten]
      · rw [groundLevel_append ten.ge]
        exact level
  | zeroed earlier latest whole enough count level ready data =>
    have more : 10 ≤ received.length := by
      rw [whole, List.length_append]
      omega
    rw [if_neg (by omega), if_neg (by omega)]
    refine .zeroed received msg rfl more count ?_ rfl rfl
    rw [groundLevel_append more]
    exact level

theorem zeroing {history : List (OdomEntry α)} {node : OdomToPoseNode α} (run : odomToPose.Run history node) :
    Zeroing (messages history) node := by
  induction run with
  | refl => exact .collecting (Nat.zero_le 10) rfl rfl rfl
  | @snoc node after history event outputs earlier taken ih =>
    rw [messages_append]
    cases event with
    | odometry msg =>
      cases taken
      exact ih.odometry msg
    | tick =>
      cases taken
      exact (List.append_nil (messages history)).symm ▸ ih

theorem Zeroing.tick {received : List (Pose α)} {node : OdomToPoseNode α} (zeroing : Zeroing received node) :
    (received.length ≤ 10 → node.timerCb = []) ∧
      (10 < received.length → node.offset = groundLevel received ∧ ∃ latest, received.getLast? = some latest ∧
        node.timerCb = [above (groundLevel received) latest]) := by
  unfold timerCb
  cases zeroing with
  | collecting few count sum unready =>
    refine ⟨fun _ => ?_, fun many => absurd few (Nat.not_le.mpr many)⟩
    rw [unready, Bool.false_and]
    rfl
  | zeroed earlier latest whole enough count level ready data =>
    constructor
    · intro few
      rw [whole, List.length_append, List.length_singleton] at few
      omega
    · intro _
      refine ⟨level, latest, by rw [whole, List.getLast?_concat], ?_⟩
      rw [ready, count, data, level]
      rfl

/-- The vision poses of any run. -/
theorem height_zeroing (events : List (OdomEvent α)) : ∃ history node, odomToPose.Run history node ∧
    history.map Entry.event = events ∧ ∀ past entry future, history = past ++ entry :: future →
      (∀ msg, entry.event = .odometry msg → entry.outputs = []) ∧
      (entry.event = .tick → (messages past).length ≤ 10 → entry.outputs = []) ∧
      (10 < (messages past).length → entry.before.offset = groundLevel (messages history) ∧
        entry.after.offset = groundLevel (messages history) ∧
        (entry.event = .tick → ∃ latest, (messages past).getLast? = some latest ∧
          entry.outputs = [above (groundLevel (messages history)) latest])) := by
  obtain ⟨history, node, run, same⟩ := odomToPose.runs (fun _ => True) (by
    intro node event _
    cases event with
    | odometry | tick => exact ⟨_, _, rfl, trivial⟩) trivial events
  refine ⟨history, node, run, same, ?_⟩
  intro past entry future whole
  subst whole
  obtain ⟨reached, taken, onward⟩ := run.entry
  obtain ⟨early, late⟩ := (zeroing reached).tick
  obtain ⟨_, later⟩ := (zeroing (reached.snoc taken)).tick
  have unchanged (many : 10 < (messages past).length) (more : List (OdomEntry α)) :
      groundLevel (messages (past ++ more)) = groundLevel (messages past) := by
    rw [messages_append, groundLevel_append many.le]
  have answer (tick : entry.event = .tick) : entry.outputs = entry.before.timerCb := by
    rw [tick] at taken
    exact (congrArg Prod.snd (Option.some.inj taken)).symm
  refine ⟨?_, ?_, ?_⟩
  · intro msg odometry
    rw [odometry] at taken
    exact (congrArg Prod.snd (Option.some.inj taken)).symm
  · intro tick few
    rw [answer tick, early few]
  · intro many
    obtain ⟨level, latest, last, published⟩ := late many
    have longer : 10 < (messages (past ++ [entry])).length := by
      rw [messages_append, List.length_append]
      omega
    rw [unchanged many]
    refine ⟨level, ?_, fun tick => ⟨latest, last, (answer tick).trans published⟩⟩
    rw [← unchanged many [entry]]
    exact (later longer).1

end FlightStack.Proofs
