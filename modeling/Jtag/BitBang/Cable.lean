import Jtag.BitBang.Adapter
import Jtag.Cable.Driver

/-!
A cable that speaks the bit-bang protocol.
-/

namespace Jtag.BitBang

/-- A driver behind a connection. -/
structure Pod (σ : Type) where
  adapter : Adapter σ
  /-- The levels of the reset lines that were set last. -/
  signals : Signals
deriving Repr

namespace Pod

variable {σ α : Type}

/-- A driver on a fresh connection, with both reset lines released. -/
def new (socket : σ) : Pod σ := ⟨Adapter.new socket, .resetLines⟩

/-- A call on the adapter alone. -/
def onAdapter (act : Action (Adapter σ) IoError α) : DriverAction (Pod σ) α :=
  Action.mapError .io (Action.within (·.adapter) (fun p adapter => { p with adapter }) act)

theorem onAdapter_ok {act : Action (Adapter σ) IoError α} {answer : α} {p : Pod σ} {adapter : Adapter σ}
    (h : act.runOn p.adapter = (.ok answer, adapter)) :
    (onAdapter act).runOn p = (.ok answer, { p with adapter }) := by
  rw [onAdapter, Action.runOn_mapError, Action.runOn_within, h]
  rfl

def clock (tms tdi : Bool) (count : Nat) : DriverAction (Pod σ) Unit :=
  onAdapter (Adapter.put (List.replicate count (Command.pulse tms tdi)).flatten)

variable [Socket σ]

/-- Release both reset lines. -/
def init : DriverAction (Pod σ) Unit := onAdapter do
  Adapter.put [.reset false false]
  Adapter.flush

def sampleTdo : DriverAction (Pod σ) Bool := do
  onAdapter (Adapter.put [.write false false false, .read])
  let samples ← onAdapter (Adapter.readSamples 1)
  return samples.head?.getD false

/-- All bits go out in one packet, and all samples come back in one answer. -/
def transfer (input : List Bool) (capture : Bool) : DriverAction (Pod σ) (List Bool) :=
  if capture then onAdapter do
    Adapter.put (input.flatMap Command.sampledPulse)
    Adapter.readSamples input.length
  else onAdapter do
    Adapter.put (input.flatMap (Command.pulse false))
    return []

/-- Only the reset lines can be driven, and only a change is sent. The protocol speaks of
asserted lines, which are low. -/
def setSignals (mask value : Signals) : DriverAction (Pod σ) Signals := do
  let old ← Action.inspect (·.signals)
  let signals := old.drive (mask.both .resetLines) value
  Action.change fun p => { p with signals }
  unless signals = old do onAdapter do
    Adapter.put [.reset (!signals.trst) (!signals.reset)]
    Adapter.flush
  return old

instance : Driver (Pod σ) where
  name _ := "remote_bitbang"
  strategy _ := .combineTransfers
  init := init
  done := onAdapter Adapter.quit
  setFrequency _ := pure 0
  clock := clock
  sampleTdo := sampleTdo
  transfer := transfer
  setSignals := setSignals
  sampleSignal lines := Action.inspect fun p => p.signals.allHigh lines
  flush := onAdapter Adapter.flush

end Pod
end Jtag.BitBang
