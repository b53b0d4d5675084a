import Jtag.Cable.Flush

/-!
The operations of a cable. The deferred ones only put an item into the queue, followed by an optional
flush. The plain ones execute everything deferred first and then talk to the driver. The late ones
pick up results in the order in which they were asked for.
-/

namespace Jtag.Cable

variable {σ : Type} [Driver σ]

def name (c : Cable σ) : String := Driver.name c.driver

def init : CableAction σ Unit := onDriver Driver.init

/-- Execute everything deferred, drop what is left in the queues, and shut the driver down. The
first of the two failures is told. -/
def done : CableAction σ Unit := do
  let flushed ← (flush .completely).outcome
  purge
  let finished ← (onDriver Driver.done : CableAction σ Unit).outcome
  Action.ofExcept flushed
  Action.ofExcept finished

/-- Ask for a frequency and remember the one that was set. -/
def setFrequency (hz : Nat) : CableAction σ Unit := do
  flush .completely
  let frequency ← onDriver (Driver.setFrequency hz)
  Action.change fun c => { c with frequency }

def setDelay (delay : Nat) : CableAction σ Unit := Action.change fun c => { c with delay }

/-- Let all output reach the hardware. The pause that follows changes nothing. -/
def wait : CableAction σ Unit := flush .toOutput

/-- Put an item behind the deferred ones. -/
def defer (item : Item) : CableAction σ Unit := do
  pushItem item
  flush .optionally

def deferClock (tms tdi : Bool) (count : Nat) : CableAction σ Unit := defer (.clock tms tdi count)

def deferSampleTdo : CableAction σ Unit := defer .sampleTdo

def deferTransfer (input : List Bool) (capture : Bool) : CableAction σ Unit :=
  defer (.transfer input capture)

def deferSetSignals (mask value : Signals) : CableAction σ Unit := defer (.setSignals mask value)

def deferSampleSignal (lines : Signals) : CableAction σ Unit := defer (.sampleSignal lines)

def clock (tms tdi : Bool) (count : Nat) : CableAction σ Unit := do
  flush .completely
  onDriver (Driver.clock tms tdi count)
  onDriver Driver.flush

def sampleTdo : CableAction σ Bool := do
  flush .completely
  onDriver Driver.sampleTdo

/-- Shift `input` with TMS low, answering the bits that came out if they are wanted. -/
def transfer (input : List Bool) (capture : Bool) : CableAction σ (List Bool) := do
  flush .completely
  let sampled ← onDriver (Driver.transfer input capture)
  onDriver Driver.flush
  return sampled

def setSignals (mask value : Signals) : CableAction σ Signals := do
  flush .completely
  onDriver (Driver.setSignals mask value)

def sampleSignal (lines : Signals) : CableAction σ Bool := do
  flush .completely
  onDriver (Driver.sampleSignal lines)

/-- The oldest result was not of the kind asked for: none of the others can be told apart any
more, so all of them go. -/
def outOfSync {α : Type} : CableAction σ α := do
  purgeResults
  throw .queueOutOfSync

/-- The oldest result after all output reached the hardware, if there is one. -/
def oldestOutcome? : CableAction σ (Option Outcome) := do
  flush .toOutput
  match ← (popOutcome : CableAction σ Outcome).outcome with
  | .ok outcome => return some outcome
  | .error .queueEmpty => return none
  | .error e => throw e

/-- Pick up the oldest TDO sample. Without a result TDO is sampled now. -/
def sampleTdoLate : CableAction σ Bool := do
  match ← oldestOutcome? with
  | some (.tdo value) => return value
  | some _ => outOfSync
  | none => onDriver Driver.sampleTdo

/-- Pick up the bits of the oldest captured transfer. -/
def transferLate : CableAction σ (List Bool) := do
  match ← oldestOutcome? with
  | some (.transfer bits) => return bits
  | some _ => outOfSync
  | none => throw .queueOutOfSync

/-- Pick up the oldest sample of the named lines. Without a result they are sampled now. -/
def sampleSignalLate (lines : Signals) : CableAction σ Bool := do
  match ← oldestOutcome? with
  | some (.signal sampled value) => if sampled = lines then return value else outOfSync
  | some _ => outOfSync
  | none => onDriver (Driver.sampleSignal lines)

end Jtag.Cable
