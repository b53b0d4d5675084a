import Jtag.Chain.Basic

/-!
Capturing and shifting the registers of a chain. A shift goes out in two passes: the first one defers
all clocks, transfers and samples, the second one picks up what came back. So the shifts of all parts
can become one transfer.
-/

namespace Jtag

/-- Where the controllers go after the last bit of a shift. -/
inductive Exit where
  /-- They stay, and the next shift continues the scan. -/
  | shift
  /-- Through Update to Run-Test/Idle. -/
  | idle
  /-- They leave with the last bit and stop in Exit1. -/
  | exit1
  /-- Through Exit1 to Update. -/
  | update
deriving DecidableEq, Repr

namespace Exit

/-- The last bit is clocked with TMS high. -/
def leavesShift (exit : Exit) : Bool := exit != .shift

/-- The levels of TMS that follow the last bit. -/
def trailer : Exit → List Bool
  | shift | exit1 => []
  | update => [true]
  | idle => [true, false]

/-- The number of bits of a shift that can go into a transfer, which has TMS low throughout. -/
def bulk (exit : Exit) (length : Nat) : Nat := if exit.leavesShift then length - 1 else length

end Exit

namespace Chain

variable {σ : Type} [Driver σ]

/-- Warn about a capture that cannot start here. -/
def checkCaptureStart (column : Tap.Column) : ChainAction σ Unit := do
  let state := (← get).state
  unless state.canStartCapture do warn (.captureFrom column state)

/-- Clocks with TMS high that lead from Run-Test/Idle to the select state of a column. -/
def selectClocks : Tap.Column → Nat
  | .data => 1
  | .instruction => 2

/-- Enter the capture state of a column from Run-Test/Idle or an update state. -/
def capture (column : Tap.Column) : ChainAction σ Unit := do
  requireCable
  checkCaptureStart column
  deferClock true false (selectClocks column)
  deferClock false false 1

/-- Defer the bits of a shift that go out one clock each, from position `index` on. -/
def deferSingles (outputLength? : Option Nat) (leave : Bool) : Nat → List Bool → ChainAction σ Unit
  | _, [] => pure ()
  | index, bit :: rest => do
    if outputLength?.any (index < ·) then onCable Cable.deferSampleTdo
    deferClock (leave && rest.isEmpty) bit 1
    deferSingles outputLength? leave (index + 1) rest

/-- Defer the shift of a register. If an output length is given, that many of the bits that leave
the chain are kept for later. -/
def deferShift (input : Register) (outputLength? : Option Nat) (exit : Exit) :
    ChainAction σ Unit := do
  requireCable
  let state := (← get).state
  unless state.isShift do warn (.shiftFrom state)
  if state.isCapture then deferClock false false 1
  let bulk := match outputLength? with
    | none => exit.bulk input.length
    | some outputLength => min (exit.bulk input.length) outputLength
  onCable (Cable.deferTransfer (input.bits.take bulk) outputLength?.isSome)
  track (·.clocks false bulk)
  deferSingles outputLength? exit.leavesShift bulk (input.bits.drop bulk)
  exit.trailer.forM fun tms => deferClock tms false 1

/-- Pick up samples of TDO for the bits from `index` on. -/
def collectSingles : Nat → Nat → Action (Cable σ × Register) CableError Unit
  | _, 0 => pure ()
  | index, n + 1 => do
    let value ← Action.within (·.1) (fun s cable => (cable, s.2)) Cable.sampleTdoLate
    Action.change fun s => (s.1, (s.2.set? index value).getD s.2)
    collectSingles (index + 1) n

/-- Pick up what the shift of a register of `inputLength` bits brought back. What was picked up
before a failure stays in the register. -/
def collect (inputLength : Nat) (exit : Exit) : Action (Cable σ × Register) CableError Unit := do
  let bits ← Action.within (·.1) (fun s cable => (cable, s.2)) Cable.transferLate
  Action.change fun s => (s.1, s.2.overlay bits)
  let outputLength ← Action.inspect (·.2.length)
  let bulk := min (exit.bulk inputLength) outputLength
  collectSingles bulk (min inputLength outputLength - bulk)

/-- Pick up the output of a shift into a register of the caller. -/
def shiftOutput (inputLength : Nat) (output : Register) (exit : Exit) : ChainAction σ Register :=
  ExceptT.mk fun c => match c.cable? with
    | none => (.error .noCable, c)
    | some cable =>
      let (answer, cable, output) := (collect inputLength exit).runOn (cable, output)
      ((answer.mapError .cable).map fun _ => output, { c with cable? := some cable })

def shift (input : Register) (exit : Exit) : ChainAction σ Unit := deferShift input none exit

/-- Shift a register through the chain and collect what comes out. -/
def exchange (input output : Register) (exit : Exit) : ChainAction σ Register := do
  deferShift input (some output.length) exit
  shiftOutput input.length output exit

/-! ### All parts at once -/

/-- Where the shift of one of several parts ends: only the last one leaves the shift state. -/
def exitOf (exit : Exit) (last index : Nat) : Exit := if index = last then exit else .shift

/-- What a part shifts in a scan of all parts, and where it keeps what comes back. -/
structure Lane where
  column : Tap.Column
  input : Part → Option Register
  output : Part → Option Register
  store : Register → Part → Part

namespace Lane

/-- The opcode of the active instruction. -/
def instruction : Lane where
  column := .instruction
  input p := p.activeInstruction?.map (·.opcode)
  output p := p.activeInstruction?.map (·.captured)
  store r p := match p.active? with
    | none => p
    | some index => p.modifyInstruction index (·.capture r.bits)

/-- The data register that the active instruction selects. -/
def data : Lane where
  column := .data
  input p := p.activeRegister?.map (·.input)
  output p := p.activeRegister?.map (·.output)
  store r p := match p.activeRegisterIndex? with
    | none => p
    | some index => p.modifyRegister index fun register => { register with output := r }

/-- The registers of one part: what is shifted, and what is filled. -/
def registers? (lane : Lane) (p : Part) : Option (Register × Register) := do
  return (← lane.input p, ← lane.output p)

end Lane

/-- Pick up the output of the part at a position. -/
def collectPart (lane : Lane) (index inputLength : Nat) (exit : Exit) : ChainAction σ Unit :=
  ExceptT.mk fun c => match c.cable?, c.parts[index]?.bind lane.output with
    | none, _ => (.error .noCable, c)
    | some _, none => (.ok (), c)
    | some cable, some output =>
      let (answer, cable, output) := (collect inputLength exit).runOn (cable, output)
      (answer.mapError .cable,
        { c with cable? := some cable, parts := c.parts.modify index (lane.store output) })

/-- Shift a lane of all parts as one scan. Without output everything is flushed instead of
collected. -/
def shiftLane (lane : Lane) (output capturing : Bool) (exit : Exit) : ChainAction σ Unit := do
  requireCable
  if capturing then capture lane.column
  let c : Chain σ ← get
  let registers := (c.parts.filterMap lane.registers?).zipIdx
  let last := c.parts.length - 1
  registers.forM fun ((input, filled), index) =>
    deferShift input (if output then some filled.length else none) (exitOf exit last index)
  if output then
    registers.forM fun ((input, _), index) =>
      collectPart lane index input.length (exitOf exit last index)
  else onCable (Cable.flush .toOutput)

/-- Warn and fail if a part has no active instruction. -/
def checkInstructions : Nat → List Part → ChainAction σ Unit
  | _, [] => pure ()
  | index, p :: rest => do
    if p.active?.isNone then
      warn (.noActiveInstruction index)
      throw (.partWithoutInstruction index)
    checkInstructions (index + 1) rest

/-- Warn and fail if a part has no active instruction, or one that selects no data register. -/
def checkDataRegisters : Nat → List Part → ChainAction σ Unit
  | _, [] => pure ()
  | index, p :: rest => do
    match p.activeInstruction? with
    | none =>
      warn (.noActiveInstruction index)
      throw (.partWithoutInstruction index)
    | some instruction =>
      if instruction.register?.isNone then
        warn (.noDataRegister instruction.name index)
        throw (.partWithoutDataRegister index)
    checkDataRegisters (index + 1) rest

/-- Shift the active instructions of all parts as one scan. With `output` the bits that leave the
chain are kept in the instructions; with `capturing` the capture state is entered first, otherwise the
chain has to be in a shift state. -/
def shiftInstructions (output capturing : Bool) (exit : Exit) : ChainAction σ Unit := do
  let c : Chain σ ← get
  unless c.parts.isEmpty do
    checkInstructions 0 c.parts
    shiftLane .instruction output capturing exit

/-- Shift the data registers that the active instructions select as one scan. -/
def shiftData (output capturing : Bool) (exit : Exit) : ChainAction σ Unit := do
  let c : Chain σ ← get
  unless c.parts.isEmpty do
    checkDataRegisters 0 c.parts
    shiftLane .data output capturing exit

/-- Reset the chain and load bypass into every part. The instruction of all ones is only shifted if
the length of the instruction path is known. Parts without a bypass instruction are left without an
active one. -/
def resetBypass : ChainAction σ Unit := do
  reset
  let length := (← get).instructionLength
  unless length = 0 do
    let ones ← makeFilled length true
    capture .instruction
    shift ones .idle
    Action.change fun c =>
      { c with parts := c.parts.map fun p => (Action.runOn (Part.selectInstruction Part.bypass) p).2 }

end Chain
end Jtag
