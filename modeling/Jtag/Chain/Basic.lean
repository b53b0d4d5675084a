import Jtag.Cable.Family
import Jtag.Cable.Operations
import Jtag.Chain.Warning
import Jtag.Part.Description
import Jtag.Tap.Route

/-!
A chain: a cable, the parts it reaches, and what is known about the state of their controllers. Every
clock that goes out through the chain is also followed by its tracker.
-/

namespace Jtag

/-- Parts that share one set of lines. -/
structure Chain (σ : Type) where
  cable? : Option (Cable σ)
  /-- What is known about the controllers. -/
  tracker : Tap.Tracker
  /-- The parts, the one closest to TDO first. -/
  parts : List Part
  /-- The part that a user works on. -/
  active : Nat
  /-- The instruction path length that was found while there are no parts. -/
  scannedLength? : Option Nat
  config : Config
  /-- Warnings so far, first one first. -/
  warnings : Array Warning
  /-- Drivers that were let go, first one first, as they were left. -/
  released : Array σ

abbrev ChainAction (σ α : Type) := Action (Chain σ) Error α

namespace Chain

variable {σ ε α : Type}

/-- A chain without cable and parts. -/
def new (config : Config) : Chain σ where
  cable? := none
  tracker := .fresh
  parts := []
  active := 0
  scannedLength? := none
  config := config
  warnings := #[]
  released := #[]

/-- The state of the controllers, as far as known. -/
def state (c : Chain σ) : Tap.State := c.tracker.state

def isConnected (c : Chain σ) : Bool := c.cable?.isSome

def warn (w : Warning) : ChainAction σ Unit :=
  Action.change fun c => { c with warnings := c.warnings.push w }

/-- Fail without a cable. -/
def requireCable : ChainAction σ Unit := do
  unless ← Action.inspect isConnected do throw .noCable

def onCable (act : CableAction σ α) : ChainAction σ α :=
  ExceptT.mk fun c => match c.cable? with
    | none => (.error .noCable, c)
    | some cable =>
      let (answer, cable) := act.runOn cable
      (answer.mapError .cable, { c with cable? := some cable })

/-- Change what is known about the controllers. -/
def track (f : Tap.Tracker → Tap.Tracker) : ChainAction σ Unit :=
  Action.change fun c => { c with tracker := f c.tracker }

/-! ### Parts -/

def part (index : Nat) : ChainAction σ Part := do
  match (← get).parts[index]? with
  | some part => return part
  | none => throw (.invalidPartIndex index)

/-- A call on the part at a position. -/
def onPart (index : Nat) (act : Action Part ε α) : ChainAction σ (Except ε α) := do
  let (answer, part) := act.runOn (← part index)
  Action.change fun c => { c with parts := c.parts.set index part }
  return answer

/-- Append a part behind the others, closer to TDI; the answer has its position. -/
def addPart (part : Part) : ChainAction σ Nat := do
  let c ← get
  set { c with scannedLength? := none, parts := c.parts ++ [part] }
  return c.parts.length

/-- Put another part into a position. -/
def replacePart (index : Nat) (part : Part) : ChainAction σ Unit := do
  let _ ← Chain.part index
  Action.change fun c => { c with parts := c.parts.set index part }

def clearParts : ChainAction σ Unit :=
  Action.change fun c => { c with parts := [], active := 0, scannedLength? := none }

/-- Choose the part that a user works on. -/
def setActive (index : Nat) : ChainAction σ Unit := do
  let c ← get
  if index < c.parts.length then set { c with active := index }
  else throw (.invalidPartIndex index)

/-- The part that a user works on. -/
def activePart : ChainAction σ Part := do part (← get).active

/-- The length of the instruction path: what was found as long as there are no parts, else the sum
over the parts. -/
def instructionLength (c : Chain σ) : Nat :=
  match c.parts, c.scannedLength? with
  | [], some length => length
  | parts, _ => Word.wrap (Scan.total (parts.map (·.instructionLength)))

/-- Tell the length of the instruction path of a chain whose parts are not known. -/
def setInstructionLength (length : Nat) : ChainAction σ Unit :=
  Action.change fun c => { c with scannedLength? := some length }

/-- A register of equal bits. A call that needs a longer row than any that can be held is given up. -/
def makeFilled (length : Nat) (value : Bool) : ChainAction σ Register := do
  if Word.rowLimit < length then throw (.overlong length)
  Action.ofExcept ((Register.filled? length value).mapError .register)

/-- The first failure of a call on each of several parts, with the position of the part. -/
def firstFailure? : Nat → List (Except PartError Unit) → Option Error
  | _, [] => none
  | index, .error e :: _ => some (.inPart index e)
  | index, .ok _ :: rest => firstFailure? (index + 1) rest

/-- Select an instruction in every part. Parts without it are left without an active one, and the
first of them is told. -/
def setInstruction (name : String) : ChainAction σ Unit := do
  let c : Chain σ ← get
  let answers : List (Except PartError Unit × Part) :=
    c.parts.map fun p => Action.runOn (Part.selectInstruction name) p
  set { c with parts := answers.map Prod.snd }
  match firstFailure? 0 (answers.map Prod.fst) with
  | none => pure ()
  | some e => throw e

/-! ### Lines and clocks -/

variable [Driver σ]

/-- Clocks that go out at once. -/
def clock (tms tdi : Bool) (count : Nat) : ChainAction σ Unit := do
  onCable (Cable.clock tms tdi count)
  track (·.clocks tms count)

/-- Clocks that may go out later. -/
def deferClock (tms tdi : Bool) (count : Nat) : ChainAction σ Unit := do
  onCable (Cable.deferClock tms tdi count)
  track (·.clocks tms count)

/-- Drive lines. A change of the test reset line is followed. The answer has the levels before. -/
def setSignals (mask value : Signals) : ChainAction σ Signals := do
  let old ← onCable (Cable.setSignals mask value)
  track (·.setTrst old.trst (old.drive mask value).trst)
  return old

def sampleSignal (lines : Signals) : ChainAction σ Bool := onCable (Cable.sampleSignal lines)

/-- Drive the test reset line, high releasing it. The answer has the level before. -/
def setTrst (level : Bool) : ChainAction σ Bool := do
  let value := if level then Signals.trstLine else Signals.none
  let old ← onCable (Cable.setSignals .trstLine value)
  track (·.setTrst old.trst level)
  return old.trst

def trst : ChainAction σ Bool := onCable (Cable.sampleSignal .trstLine)

/-- Execute everything deferred. Without a cable there is nothing to do. -/
def flush : ChainAction σ Unit := do
  if ← Action.inspect isConnected then onCable (Cable.flush .completely)

def frequency : ChainAction σ Nat := onCable (Action.inspect (·.frequency))

def setFrequency (hz : Nat) : ChainAction σ Unit := onCable (Cable.setFrequency hz)

/-- Walk the controllers to a state on the shortest way; from an unknown state they are reset
first. -/
def goto (target : Tap.State) : ChainAction σ Unit := do
  requireCable
  let c ← get
  (c.state.route target).forM fun tms => deferClock tms false 1

/-- Bring the controllers to Run-Test/Idle through Test-Logic-Reset with TMS alone. -/
def reset : ChainAction σ Unit := do
  clock true false Tap.resetClocks
  clock false false 1

/-- Pulse the test reset line, then reset with TMS. -/
def trstReset : ChainAction σ Unit := do
  let _ ← setTrst false
  let _ ← setTrst true
  reset

/-! ### Connecting -/

/-- Let the cable go. What is deferred is executed first. -/
def disconnect : ChainAction σ Unit := do
  let c ← get
  match c.cable? with
  | none => pure ()
  | some cable =>
    let (answer, cable) := Cable.done.runOn cable
    set { c with
      cable? := none
      tracker := c.tracker.forget
      released := c.released.push cable.driver }
    Action.ofExcept (answer.mapError .cable)

/-- Take over a driver, with what its queues get when they grow. The cable before is let go first. The
controllers are reset afterwards, by their reset line and by TMS. A driver that fails to start is let
go. -/
def connect (driver : σ) (memory : Memory) : ChainAction σ Unit := do
  disconnect
  let c ← get
  let (answer, cable) := Cable.init.runOn (Cable.new driver c.config.queue memory)
  match answer with
  | .error e =>
    set { c with released := c.released.push cable.driver }
    throw (.cable e)
  | .ok _ =>
    set { c with cable? := some cable, tracker := c.tracker.forget }
    trstReset

/-- Find a family of cables by name and take over the driver that its parameters lead to. -/
def connectNamed (attach : Endpoint → Except CableError σ) (memory : Memory) (name : String)
    (params : List String) : ChainAction σ Unit := do
  let family ← Action.ofExcept ((Family.find? name).mapError .cable)
  let endpoint ← Action.ofExcept ((family.endpoint? params).mapError .cable)
  connect (← Action.ofExcept ((attach endpoint).mapError .cable)) memory

/-- The end of a chain: its cable is let go, and a failure is only warned about. -/
def close : ChainAction σ Unit := do
  match ← disconnect.outcome with
  | .ok _ => pure ()
  | .error e => warn (.disconnectFailed e)

end Chain
end Jtag
