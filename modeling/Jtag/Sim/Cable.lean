import Jtag.Cable.Driver
import Jtag.Sim.Chain

/-!
A cable to a simulated chain.
-/

namespace Jtag.Sim

/-- A driver that clocks simulated devices. -/
structure Pod where
  chain : Chain
  strategy : FlushStrategy
deriving Repr

namespace Pod

/-- A cable to devices after power-up. -/
def new (devices : List Device) (strategy : FlushStrategy) : Pod := ⟨Chain.new devices, strategy⟩

def clock (tms tdi : Bool) (count : Nat) : DriverAction Pod Unit :=
  Action.change fun p => { p with chain := p.chain.clockTimes tms tdi count }

def sampleTdo : DriverAction Pod Bool := Action.inspect (·.chain.tdo)

def setSignals (mask value : Signals) : DriverAction Pod Signals := do
  let old ← Action.inspect (·.chain.signals)
  Action.change fun p => { p with chain := p.chain.drive mask value }
  return old

instance : Driver Pod where
  name _ := "sim"
  strategy p := p.strategy
  init := pure ()
  done := pure ()
  setFrequency hz := pure hz
  clock := clock
  sampleTdo := sampleTdo
  transfer input capture := Driver.transferByBits sampleTdo clock capture input
  setSignals := setSignals
  sampleSignal lines := Action.inspect fun p => p.chain.signals.allHigh lines
  flush := pure ()

end Pod
end Jtag.Sim
