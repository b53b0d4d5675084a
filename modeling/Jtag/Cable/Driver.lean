import Jtag.Action
import Jtag.Cable.Error
import Jtag.Cable.Item

/-!
Drivers: the operations a cable needs from its hardware. Each call may fail and leaves a state behind
in either case. A transfer can be composed of single clocks and samples, which a driver uses that
has nothing faster.
-/

namespace Jtag

/-- How a driver wants the deferred work of its cable executed. -/
inductive FlushStrategy where
  /-- One item at a time, on every flush. -/
  | oneByOne
  /-- Runs of clocks with TMS low, transfers and TDO samples as one transfer. -/
  | combineTransfers
deriving DecidableEq, Repr

abbrev DriverAction (σ α : Type) := Action σ CableError α

/-- The operations of a cable driver whose state is of type `σ`. -/
class Driver (σ : Type) where
  name : σ → String
  strategy : σ → FlushStrategy
  init : DriverAction σ Unit
  done : DriverAction σ Unit
  /-- Ask for a TCK frequency in Hz; the answer is the one that was set. -/
  setFrequency (hz : Nat) : DriverAction σ Nat
  clock (tms tdi : Bool) (count : Nat) : DriverAction σ Unit
  sampleTdo : DriverAction σ Bool
  /-- Shift `input` with TMS low. With `capture` the answer has the TDO sample before each clock,
  otherwise it is empty. -/
  transfer (input : List Bool) (capture : Bool) : DriverAction σ (List Bool)
  /-- Drive the lines in `mask`; the answer has the levels of all lines before. -/
  setSignals (mask value : Signals) : DriverAction σ Signals
  sampleSignal (lines : Signals) : DriverAction σ Bool
  /-- Send what the driver holds back. -/
  flush : DriverAction σ Unit

namespace Driver

variable {σ : Type}

/-- A transfer made of one clock per bit, each after a sample where the bits that come out are
wanted. -/
def transferByBits (sampleTdo : DriverAction σ Bool)
    (clock : Bool → Bool → Nat → DriverAction σ Unit) (capture : Bool) :
    List Bool → DriverAction σ (List Bool)
  | [] => pure []
  | tdi :: rest => do
    let sampled ← if capture then (do return [← sampleTdo]) else pure []
    clock false tdi 1
    return sampled ++ (← transferByBits sampleTdo clock capture rest)

end Driver
end Jtag
