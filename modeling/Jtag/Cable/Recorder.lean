import Jtag.Bits
import Jtag.Cable.Driver

/-!
A driver without hardware. It writes down the calls it gets, gives samples that were laid out
beforehand, and fails one call on request, so that what a cable does can be seen from outside.
-/

namespace Jtag

/-- A call as it is written down. -/
inductive Call where
  | init
  | done
  | frequency (hz : Nat)
  | clock (tms tdi : Bool) (count : Nat)
  | sampleTdo
  | transfer (input : List Bool) (capture : Bool)
  | setSignals (mask value : Signals)
  | sampleSignal (lines : Signals)
  | flush
deriving DecidableEq, Repr

def Call.text : Call → String
  | init => "init"
  | done => "done"
  | frequency hz => s!"frequency({hz})"
  | clock tms tdi count => s!"clock({tms.toNat}, {tdi.toNat}, {count})"
  | sampleTdo => "get_tdo"
  | transfer input capture => s!"transfer({Bits.wireText input}, {capture})"
  | setSignals mask value => s!"set_signal({mask.mask}, {value.mask})"
  | sampleSignal lines => s!"get_signal({lines.mask})"
  | flush => "flush"

/-- Where the samples of TDO come from. -/
inductive Samples where
  /-- The listed ones, and then always `default`. -/
  | listed (bits : List Bool) (default : Bool)
  /-- A line that gives TDI back as many clocks later as it has bits, oldest bit first. -/
  | delayed (line : List Bool)
deriving DecidableEq, Repr

namespace Samples

/-- The level of TDO, and what is left after it was sampled. -/
def take : Samples → Bool × Samples
  | listed [] default => (default, listed [] default)
  | listed (b :: bits) default => (b, listed bits default)
  | delayed line => (line.head?.getD false, delayed line)

/-- One clock with the given level of TDI. -/
def clock (tdi : Bool) : Samples → Samples
  | delayed (_ :: line) => delayed (line ++ [tdi])
  | other => other

/-- Let `count` clocks pass with the same level of TDI. -/
def clocks (tdi : Bool) (s : Samples) (count : Nat) : Samples :=
  match s with
  | listed .. => s
  | delayed line => delayed ((line ++ List.replicate (min count line.length) tdi).drop
      (min count line.length))

end Samples

/-- The one call that fails. -/
structure Fault where
  /-- The number of the call, counted from zero. -/
  number : Nat
  error : CableError
deriving DecidableEq, Repr

/-- The state of a recording driver. -/
structure Recorder where
  strategy : FlushStrategy
  signals : Signals
  samples : Samples
  /-- Numbers of the samples that are inverted, counted from zero. -/
  flips : List Nat
  sampled : Nat
  fault? : Option Fault
  /-- Transfers are made of single clocks and samples. -/
  bitwise : Bool
  /-- Calls are written down. -/
  logging : Bool
  /-- Calls received. -/
  count : Nat
  /-- The calls written down, first one first. -/
  calls : Array Call
deriving Repr

namespace Recorder

/-- Count a call and write it down; the one that is meant to fail does. -/
def receive (call : Call) : DriverAction Recorder Unit := do
  let r ← get
  set { r with
    count := r.count + 1
    calls := if r.logging then r.calls.push call else r.calls }
  match r.fault? with
  | some fault => if fault.number = r.count then throw fault.error
  | none => pure ()

def takeSample : DriverAction Recorder Bool := do
  let r ← get
  let (value, samples) := r.samples.take
  set { r with samples, sampled := r.sampled + 1 }
  return xor value (r.flips.contains r.sampled)

/-- Let clocks pass. -/
def pass (tdi : Bool) (count : Nat) : DriverAction Recorder Unit :=
  Action.change fun r => { r with samples := r.samples.clocks tdi count }

def clock (tms tdi : Bool) (count : Nat) : DriverAction Recorder Unit := do
  receive (.clock tms tdi count)
  pass tdi count

def sampleTdo : DriverAction Recorder Bool := do
  receive .sampleTdo
  takeSample

/-- Sample and shift bit by bit without writing the single steps down. -/
def shiftBits (input : List Bool) (capture : Bool) : DriverAction Recorder (List Bool) :=
  Driver.transferByBits takeSample (fun _ tdi count => pass tdi count) capture input

def transfer (input : List Bool) (capture : Bool) : DriverAction Recorder (List Bool) := do
  let r ← get
  if r.bitwise then Driver.transferByBits sampleTdo clock capture input
  else
    receive (.transfer input capture)
    shiftBits input capture

def setSignals (mask value : Signals) : DriverAction Recorder Signals := do
  receive (.setSignals mask value)
  let old ← Action.inspect (·.signals)
  Action.change fun r => { r with signals := old.drive mask value }
  return old

def sampleSignal (lines : Signals) : DriverAction Recorder Bool := do
  receive (.sampleSignal lines)
  Action.inspect fun r => r.signals.allHigh lines

/-- Half the frequency asked for is set. -/
def setFrequency (hz : Nat) : DriverAction Recorder Nat := do
  receive (.frequency hz)
  return hz / 2

instance : Driver Recorder where
  name _ := "recording"
  strategy r := r.strategy
  init := receive .init
  done := receive .done
  setFrequency := setFrequency
  clock := clock
  sampleTdo := sampleTdo
  transfer := transfer
  setSignals := setSignals
  sampleSignal := sampleSignal
  flush := receive .flush

end Recorder
end Jtag
