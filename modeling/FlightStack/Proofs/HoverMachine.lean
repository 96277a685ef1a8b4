import FlightStack.Proofs.YawWrapping

/-! The hover interface under any calls, with the vehicle moving in between: what
each state says about the past, how a hover ends, and that its target stays fixed. -/

namespace FlightStack.Proofs
open BaseController HoverController
variable {α ι : Type} [Arithmetic α]

abbrev HoverEntry (α ι : Type) := Entry (HoverController α ι) (HoverCall α ι) (Output α)

/-- The vehicle is at the target, with the yaw error taken around the circle. -/
def AtTarget (base : BaseController α) (target : HoverConfig α ι) : Prop :=
  distanceToTarget base.localPosition.position target.x target.y target.z < target.positionTolerance ∧
    |shortestAngularDistance target.yaw base.currentYaw| < target.yawTolerance

/-- The setpoint that holds a target. -/
def hold (target : HoverConfig α ι) : Output α := publishPositionSetpoint target.x target.y target.z target.yaw

/-- What a start asks for, and the reading of the clock in it. -/
def start? : HoverCall α ι → Option (HoverConfig α ι × Int)
  | .startHover asked reading => some (asked, reading)
  | .startHoverFor duration reading => some ({ (.construct : HoverConfig α ι) with duration }, reading)
  | .startHoverAtPosition x y z yaw duration reading =>
    some ({ (.construct : HoverConfig α ι) with x, y, z, yaw, duration, useCurrentPosition := false }, reading)
  | .startHoverWithCondition exitCondition reading =>
    some ({ (.construct : HoverConfig α ι) with exitCondition }, reading)
  | .stopHover | .updateHover .. | .localPosition _ => none

/-- The reading of the clock in a call. -/
def reading? : HoverCall α ι → Option Int
  | .updateHover reading _ => some reading
  | call => (start? call).map Prod.snd

/-- The target a start sets: what it asks for, or where the vehicle is. -/
def aim (base : BaseController α) (asked : HoverConfig α ι) : HoverConfig α ι :=
  if asked.useCurrentPosition then
    { asked with
      x := base.localPosition.position.x
      y := base.localPosition.position.y
      z := base.localPosition.position.z
      yaw := base.currentYaw }
  else asked

/-- A hover that began at some time has lasted long enough, or its condition is met. -/
def Ended (target : HoverConfig α ι) (began : Time) (reading : Int) (environment : ι) : Prop :=
  (0 < target.duration ∧ ∃ since, began = .now since ∧ target.duration ≤ seconds (reading - since)) ∨
    ∃ condition, target.exitCondition = some condition ∧ condition environment = true

theorem at_target {node : HoverController α ι} (reached : node.checkHoverPositionReached = true) :
    AtTarget node.toBaseController node.hoverConfig := by
  obtain ⟨near, aligned⟩ := reached_iff.mp reached
  exact ⟨near, (wrapped_least (wrapOnce_congruent _)).trans_lt aligned⟩

/-! Steps -/

/-- What a call does to the node. -/
inductive Hovered (config : Config α) (node : HoverController α ι) :
    HoverCall α ι → HoverController α ι → List (Output α) → Prop where
  | begin {call asked reading} (start : start? call = some (asked, reading))
      (reached : AtTarget node.toBaseController (aim node.toBaseController asked)) :
      Hovered config node call ⟨node.toBaseController, .hovering, aim node.toBaseController asked, .now reading⟩ []
  | depart {call asked reading} (start : start? call = some (asked, reading)) :
      Hovered config node call
        ⟨node.toBaseController, .positioning, aim node.toBaseController asked, node.hoverStartTime⟩ []
  | stop : Hovered config node .stopHover ⟨node.toBaseController, .idle, .construct, node.hoverStartTime⟩ []
  | rest {call} (start : start? call = none) (state : node.hoverState = .idle) : Hovered config node call node []
  | travel (reading environment) (state : node.hoverState = .positioning) :
      Hovered config node (.updateHover reading environment) node [hold node.hoverConfig]
  | arrive (reading environment) (state : node.hoverState = .positioning)
      (reached : AtTarget node.toBaseController node.hoverConfig) :
      Hovered config node (.updateHover reading environment)
        ⟨node.toBaseController, .hovering, node.hoverConfig, .now reading⟩ [hold node.hoverConfig]
  | stay (reading environment) (state : node.hoverState = .hovering) :
      Hovered config node (.updateHover reading environment) node [hold node.hoverConfig]
  | complete (reading environment) (state : node.hoverState = .hovering)
      (ended : Ended node.hoverConfig node.hoverStartTime reading environment) :
      Hovered config node (.updateHover reading environment)
        ⟨node.toBaseController, .completed, node.hoverConfig, node.hoverStartTime⟩ [hold node.hoverConfig]
  | finish (reading environment) (state : node.hoverState = .completed) :
      Hovered config node (.updateHover reading environment)
        ⟨node.toBaseController, .idle, .construct, node.hoverStartTime⟩ []
  | move (message) :
      Hovered config node (.localPosition message)
        ⟨localPositionCallback config message node.toBaseController, node.hoverState, node.hoverConfig,
          node.hoverStartTime⟩ []

variable {config : Config α} {node after : HoverController α ι} {call : HoverCall α ι} {sent : List (Output α)}

theorem start_hovered {asked : HoverConfig α ι} {reading : Int} (start : start? call = some (asked, reading)) :
    Hovered config node call (node.startHover asked (.now reading)).1 [] := by
  have stopped : (if node.hoverState ≠ .idle then node.stopHover else node).toBaseController = node.toBaseController ∧
      (if node.hoverState ≠ .idle then node.stopHover else node).hoverStartTime = node.hoverStartTime := by
    unfold stopHover resetHoverState
    split <;> exact ⟨rfl, rfl⟩
  unfold startHover
  generalize (if node.hoverState ≠ .idle then node.stopHover else node) = cleared at stopped ⊢
  obtain ⟨base, state, former, began⟩ := cleared
  obtain ⟨rfl, rfl⟩ := stopped
  change Hovered config node call (ite (checkHoverPositionReached ⟨node.toBaseController, state,
    aim node.toBaseController asked, node.hoverStartTime⟩ = true) _ _ : HoverController α ι × Bool).1 []
  split
  next reached => exact .begin start (at_target reached)
  next => exact .depart start

/-- The exit check does not throw while the start time is on the node's clock. -/
theorem exit_cases {began : Int} (clock : node.hoverStartTime = .now began) (reading : Int) (environment : ι) :
    ∃ verdict, node.checkHoverExitConditions (.now reading) environment = .ok verdict ∧
      (verdict = true → Ended node.hoverConfig node.hoverStartTime reading environment) := by
  unfold checkHoverExitConditions
  rw [clock]
  by_cases timed : 0 < node.hoverConfig.duration
  · rw [if_pos timed]
    change ∃ verdict, (if node.hoverConfig.duration ≤ seconds (reading - began) then _ else _) = _ ∧ _
    split
    next elapsed => exact ⟨true, rfl, fun _ => .inl ⟨timed, began, rfl, elapsed⟩⟩
    next =>
      split
      next condition given => exact ⟨_, rfl, fun met => .inr ⟨condition, given, met⟩⟩
      next => exact ⟨false, rfl, nofun⟩
  · rw [if_neg timed]
    split
    next condition given => exact ⟨_, rfl, fun met => .inr ⟨condition, given, met⟩⟩
    next => exact ⟨false, rfl, nofun⟩

/-- A hover is timed by the node's own clock. -/
def OnClock (node : HoverController α ι) : Prop :=
  node.hoverState = .hovering → ∃ began, node.hoverStartTime = .now began

theorem update_hovered (timed : OnClock node) (reading : Int) (environment : ι) :
    ∃ after sent finished,
      node.updateHover (.now reading) environment = .ok (after, sent, finished) ∧
        Hovered config node (.updateHover reading environment) after sent := by
  unfold updateHover
  cases state : node.hoverState with
  | idle => exact ⟨node, [], true, rfl, .rest rfl state⟩
  | positioning =>
    dsimp only
    split
    next reached => exact ⟨_, _, _, rfl, .arrive reading environment state (at_target reached)⟩
    next => exact ⟨_, _, _, rfl, .travel reading environment state⟩
  | hovering =>
    obtain ⟨began, clock⟩ := timed state
    obtain ⟨verdict, ran, means⟩ := exit_cases clock reading environment
    dsimp only
    rw [ran]
    cases verdict with
    | false => exact ⟨_, _, _, rfl, .stay reading environment state⟩
    | true => exact ⟨_, _, _, rfl, .complete reading environment state (means rfl)⟩
  | completed => exact ⟨_, _, _, rfl, .finish reading environment state⟩

theorem hovered (config : Config α) (timed : OnClock node) (call : HoverCall α ι) : ∃ after sent,
      (hoverMachine config).step node call = some (after, sent) ∧ Hovered config node call after sent := by
  cases call with
  | startHover | startHoverFor | startHoverAtPosition | startHoverWithCondition =>
    exact ⟨_, _, rfl, start_hovered rfl⟩
  | stopHover =>
    refine ⟨node.stopHover, [], rfl, ?_⟩
    unfold stopHover
    split
    next => exact .stop
    next idle => exact .rest rfl (not_not.mp idle)
  | updateHover reading environment =>
    obtain ⟨after, sent, finished, ran, did⟩ := update_hovered timed reading environment
    refine ⟨after, sent, ?_, did⟩
    simp only [hoverMachine, ran]
  | localPosition message => exact ⟨_, _, rfl, .move message⟩

/-! What a step keeps -/

theorem Hovered.onClock (did : Hovered config node call after sent) (timed : OnClock node) : OnClock after := by
  intro hovering
  cases did with
  | begin | arrive => exact ⟨_, rfl⟩
  | depart | stop | complete | finish => cases hovering
  | rest | travel | stay | move => exact timed hovering

/-- An idle node has forgotten its last target. -/
def Cleared (node : HoverController α ι) : Prop := node.hoverState = .idle → node.hoverConfig = .construct

theorem Hovered.cleared (did : Hovered config node call after sent) (clear : Cleared node) : Cleared after := by
  intro idle
  cases did with
  | begin | depart | arrive | complete => cases idle
  | stop | finish => rfl
  | rest | travel | stay | move => exact clear idle

/-- The node holds a target, or it has none. -/
def Pinned (target : HoverConfig α ι) (node : HoverController α ι) : Prop :=
  node.hoverState = .idle ∨ node.hoverConfig = target

theorem Hovered.pinned {target : HoverConfig α ι} (did : Hovered config node call after sent)
    (unstarted : start? call = none) (pinned : Pinned target node) :
    Pinned target after ∧ ∀ output ∈ sent, output = hold target := by
  have held {state : HoverState} (current : node.hoverState = state) (busy : state ≠ .idle) :
      node.hoverConfig = target := pinned.resolve_left (current ▸ busy)
  cases did with
  | begin start | depart start => simp [unstarted] at start
  | stop | finish => exact ⟨.inl rfl, by simp⟩
  | rest | move => exact ⟨pinned, by simp⟩
  | travel _ _ state | stay _ _ state => exact ⟨pinned, by simp [held state]⟩
  | arrive _ _ state | complete _ _ state => exact ⟨.inr (held state (by decide)), by simp [held state]⟩

/-- How a hover comes to be completed. -/
theorem Hovered.completion (did : Hovered config node call after sent) (completed : after.hoverState = .completed) :
    node.hoverState = .completed ∨ ∃ reading environment, call = .updateHover reading environment ∧
      node.hoverState = .hovering ∧ Ended node.hoverConfig node.hoverStartTime reading environment := by
  cases did with
  | begin | depart | stop | arrive | finish => cases completed
  | rest | travel | stay | move => exact .inl completed
  | complete reading environment state ended => exact .inr ⟨reading, environment, rfl, state, ended⟩

/-! Runs -/

theorem hover_steps {history : List (HoverEntry α ι)} (run : (hoverMachine config).Run history node) :
    ∀ entry ∈ history, Hovered config entry.before entry.event entry.after entry.outputs := by
  apply Machine.Path.each run OnClock
  · exact nofun
  · intro entry taken timed
    obtain ⟨_, _, ran, did⟩ := hovered config timed entry.event
    cases taken.symm.trans ran
    exact ⟨did, did.onClock timed⟩

theorem hover_cleared {history : List (HoverEntry α ι)} (run : (hoverMachine config).Run history node) :
    Cleared node := by
  apply Machine.Path.invariant run Cleared
  · exact fun _ => rfl
  · intro entry member _ clear
    exact (hover_steps run entry member).cleared clear

/-- Some step read the clock at this time and found the vehicle at the target. -/
def Began (history : List (HoverEntry α ι)) (target : HoverConfig α ι) (time : Time) : Prop :=
  ∃ past entry future reading, history = past ++ entry :: future ∧ reading? entry.event = some reading ∧
    time = .now reading ∧ AtTarget entry.before.toBaseController target

theorem Began.later {history : List (HoverEntry α ι)} {target : HoverConfig α ι} {time : Time}
    (began : Began history target time) (entry : HoverEntry α ι) : Began (history ++ [entry]) target time := by
  obtain ⟨past, found, future, reading, rfl, rest⟩ := began
  exact ⟨past, found, future ++ [entry], reading, by simp, rest⟩

theorem reading_of_start {asked : HoverConfig α ι} {reading : Int} (start : start? call = some (asked, reading)) :
    reading? call = some reading := by
  cases call with
  | updateHover => cases start
  | startHover | startHoverFor | startHoverAtPosition | startHoverWithCondition | stopHover | localPosition =>
    exact congrArg (Option.map Prod.snd) start

theorem hovering_began {history : List (HoverEntry α ι)} (run : (hoverMachine config).Run history node) :
    node.hoverState = .hovering → Began history node.hoverConfig node.hoverStartTime := by
  induction run with
  | refl => exact nofun
  | @snoc state after history call sent earlier taken ih =>
    intro hovering
    have did := hover_steps (earlier.snoc taken) _ List.mem_concat_self
    dsimp only at did
    cases did with
    | begin start reached => exact ⟨history, _, [], _, rfl, reading_of_start start, rfl, reached⟩
    | arrive reading environment _ reached => exact ⟨history, _, [], reading, rfl, rfl, rfl, reached⟩
    | depart | stop | complete | finish => cases hovering
    | rest | travel | stay | move => exact (ih hovering).later _

/-! One hover -/

section Hover
variable {start final : HoverController α ι} {between : List (HoverEntry α ι)} {target : HoverConfig α ι}
  (path : (hoverMachine config).Path start between final)
  (steps : ∀ entry ∈ between, Hovered config entry.before entry.event entry.after entry.outputs)
  (unstarted : ∀ entry ∈ between, start? entry.event = none)
include path steps unstarted

theorem pinned_path (pinned : Pinned target start) : Pinned target final := by
  apply path.invariant (Pinned target) pinned
  intro entry member _ earlier
  exact ((steps entry member).pinned (unstarted entry member) earlier).1

theorem pinned_before (pinned : Pinned target start) {entry : HoverEntry α ι} (member : entry ∈ between) :
    Pinned target entry.before := by
  obtain ⟨earlier, later, rfl, reached, _⟩ := path.mem member
  apply pinned_path reached _ _ pinned
  · exact fun former inside => steps former (List.mem_append_left _ inside)
  · exact fun former inside => unstarted former (List.mem_append_left _ inside)

theorem endless (pinned : Pinned target start) (forever : target.duration ≤ 0) (unconditional : target.exitCondition = none)
    (fresh : start.hoverState ≠ .completed) : final.hoverState ≠ .completed := by
  intro completed
  obtain ⟨earlier, entry, later, whole, unfinished, finished⟩ :=
    path.origin (fun node => node.hoverState = .completed) fresh completed
  have member : entry ∈ between := by simp [whole]
  obtain ⟨reading, environment, _, hovering, ended⟩ :=
    ((steps entry member).completion finished).resolve_left unfinished
  have held : entry.before.hoverConfig = target :=
    (pinned_before path steps unstarted pinned member).resolve_left (hovering ▸ by decide)
  rw [held] at ended
  rcases ended with ⟨timed, _⟩ | ⟨condition, given, _⟩
  · exact absurd timed forever.not_gt
  · rw [unconditional] at given
    cases given

end Hover

omit [Arithmetic α] in
theorem aim_conditions (base : BaseController α) (asked : HoverConfig α ι) :
    (aim base asked).duration = asked.duration ∧ (aim base asked).exitCondition = asked.exitCondition := by
  unfold aim
  split <;> exact ⟨rfl, rfl⟩

theorem Hovered.started (did : Hovered config node call after sent) {asked : HoverConfig α ι} {reading : Int}
    (start : start? call = some (asked, reading)) :
    after.hoverConfig = aim node.toBaseController asked ∧ after.hoverState ≠ .completed := by
  cases did with
  | begin same | depart same =>
    cases start.symm.trans same
    exact ⟨rfl, nofun⟩
  | rest unstarted => simp [start] at unstarted
  | stop | travel | arrive | stay | complete | finish | move => cases start

/-- The hover interface of any run. -/
theorem hover_machine (config : Config α) :
    (∀ calls : List (HoverCall α ι), ∃ history node, (hoverMachine config).Run history node ∧
      history.map Entry.event = calls) ∧
    ∀ (history : List (HoverEntry α ι)) (node : HoverController α ι), (hoverMachine config).Run history node →
      (node.hoverState = .idle → node.hoverConfig = .construct) ∧
      (node.hoverState = .hovering → Began history node.hoverConfig node.hoverStartTime) ∧
      (∀ entry ∈ history, entry.after.hoverState = .completed → entry.before.hoverState ≠ .completed →
        ∃ reading environment, entry.event = .updateHover reading environment ∧ entry.before.hoverState = .hovering ∧
          Ended entry.before.hoverConfig entry.before.hoverStartTime reading environment) ∧
      ∀ past start between asked reading, history = past ++ start :: between →
        start? start.event = some (asked, reading) → (∀ entry ∈ between, start? entry.event = none) →
        (asked.duration ≤ 0 → asked.exitCondition = none → node.hoverState ≠ .completed) ∧
          ∀ entry ∈ between, ∀ output ∈ entry.outputs, output = hold (aim start.before.toBaseController asked) := by
  refine ⟨?_, ?_⟩
  · intro calls
    apply (hoverMachine config).runs OnClock
    · intro node call timed
      obtain ⟨after, sent, taken, did⟩ := hovered config timed call
      exact ⟨after, sent, taken, did.onClock timed⟩
    · exact nofun
  · intro history node run
    refine ⟨hover_cleared run, hovering_began run, ?_, ?_⟩
    · intro entry member completed unfinished
      exact ((hover_steps run entry member).completion completed).resolve_left unfinished
    · intro past start between asked reading whole began unstarted
      subst whole
      obtain ⟨_, _, path⟩ := run.entry
      have steps (entry : HoverEntry α ι) (member : entry ∈ between) :=
        hover_steps run entry (List.mem_append_right past (List.mem_cons_of_mem start member))
      obtain ⟨aimed, fresh⟩ := (hover_steps run start (by simp)).started began
      obtain ⟨duration, condition⟩ := aim_conditions start.before.toBaseController asked
      refine ⟨?_, ?_⟩
      · intro forever unconditional
        exact endless path steps unstarted (.inr aimed) (duration ▸ forever) (condition ▸ unconditional) fresh
      · intro entry member
        have pinned := pinned_before path steps unstarted (.inr aimed) member
        exact ((steps entry member).pinned (unstarted entry member) pinned).2

end FlightStack.Proofs
