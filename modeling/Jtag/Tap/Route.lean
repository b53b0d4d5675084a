import Jtag.Tap.Tracker

/-!
Routes through the state diagram: the level of TMS that leads one clock closer to a state, and the
shortest sequence of levels that reaches it.
-/

namespace Jtag.Tap

/-- The level of TMS that leads from one stage to another of the same column. The first and the
last stage leave the column and are not asked here. -/
def Stage.toward (target : Stage) : Stage → Bool
  | .select => false
  | .capture => target ≠ .shift
  | .shift => true
  | .exit1 => !(target == .pause || target == .exit2 || target == .shift)
  | .pause => true
  | .exit2 => !(target == .shift || target == .exit1 || target == .pause)
  | .update => true

namespace State

/-- The level of TMS for the next clock on the shortest way to `target`, or nothing if the
controller is there. From an unknown state TMS stays high until the controller is reset. -/
def stepToward? (state target : State) : Option Bool :=
  if state = target then none
  else some <| match state, target with
    | unknown, _ => true
    | testLogicReset, _ => false
    | runTestIdle, _ => true
    | scan .data .select, target => !target.isData
    | scan .instruction .select, target => !target.isInstruction
    | scan _ .update, target => target ≠ runTestIdle
    | scan column stage, scan column' stage' =>
      (if column = column' then stage' else .update).toward stage
    | scan _ stage, _ => Stage.toward .update stage

/-- Follow the steps towards `target` for at most `fuel` clocks. -/
def routeWithin (target : State) : Nat → Tracker → List Bool
  | 0, _ => []
  | fuel + 1, tracker =>
    match tracker.state.stepToward? target with
    | none => []
    | some tms => tms :: routeWithin target fuel (tracker.clock tms)

/-- Clocks within which every state is reached from every other: the reset, and then one visit to
each of the sixteen states. -/
def routeLimit : Nat := resetClocks + all.length

/-- The levels of TMS that lead from `state` to `target`. No clocks lead to an unknown state. -/
def route (state target : State) : List Bool :=
  if target = unknown then [] else routeWithin target routeLimit (Tracker.ofState state)

end State
end Jtag.Tap
