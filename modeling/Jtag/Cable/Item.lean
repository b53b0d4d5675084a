import Jtag.Cable.Signals

/-!
Deferred work of a cable, and what it yields.
-/

namespace Jtag

/-- An operation that waits to be executed. -/
inductive Item where
  /-- As many clocks with constant TMS and TDI. -/
  | clock (tms tdi : Bool) (count : Nat)
  /-- Sample TDO without a clock. -/
  | sampleTdo
  /-- Shift `input` with TMS low; with `capture`, keep the bits that come out. -/
  | transfer (input : List Bool) (capture : Bool)
  /-- Drive the lines in `mask` to the levels in `value`. -/
  | setSignals (mask value : Signals)
  /-- Sample whether all the named lines are high. -/
  | sampleSignal (lines : Signals)
deriving DecidableEq, Repr

/-- What an executed operation yields, until it is picked up. -/
inductive Outcome where
  | tdo (value : Bool)
  | transfer (bits : List Bool)
  | signal (lines : Signals) (value : Bool)
deriving DecidableEq, Repr

namespace Item

/-- Executing the operation yields an outcome. -/
def hasOutcome : Item → Bool
  | sampleTdo | sampleSignal _ => true
  | transfer _ capture => capture
  | clock .. | setSignals .. => false

end Item
end Jtag
