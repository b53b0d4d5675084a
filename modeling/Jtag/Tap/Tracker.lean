import Jtag.Tap.State

/-!
Following a controller from the outside. A tracker sees the clocks and the reset line that the host
drives. Five clocks with TMS high in a row bring every controller to Test-Logic-Reset, so a run of
them tells the state even where nothing was known before.
-/

namespace Jtag.Tap

/-- Clocks with TMS high after which every controller is in Test-Logic-Reset. -/
def resetClocks : Nat := 5

/-- What the host knows about a controller. -/
structure Tracker where
  /-- The state the controller is in, as far as known. -/
  state : State
  /-- Clocks with TMS high since the last one with TMS low. -/
  high : Nat
deriving DecidableEq, Repr

namespace Tracker

/-- Nothing is known yet. -/
def fresh : Tracker := ⟨.unknown, 0⟩

/-- The controller is known to be in `state`. -/
def ofState (state : State) : Tracker := ⟨state, 0⟩

/-- One clock with the given level of TMS. -/
def clock (t : Tracker) (tms : Bool) : Tracker :=
  let high := if tms then t.high + 1 else 0
  ⟨if resetClocks ≤ high then .testLogicReset else t.state.next tms, high⟩

/-- Follow `count` clocks with the same level of TMS. -/
def clocks (t : Tracker) (tms : Bool) : Nat → Tracker
  | 0 => t
  | count + 1 => (t.clock tms).clocks tms count

/-- The controller was reset by other means. -/
def reset (_ : Tracker) : Tracker := ofState .testLogicReset

/-- Nothing is known any more. -/
def forget (_ : Tracker) : Tracker := fresh

/-- The reset line went from level `old` to level `new`, high being released. Only a change tells
something: a released line leaves a reset controller, an asserted one leaves it open. -/
def setTrst (t : Tracker) (old new : Bool) : Tracker :=
  if old = new then t else if new then t.reset else t.forget

end Tracker
end Jtag.Tap
