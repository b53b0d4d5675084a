import Jtag.Part.Basic

/-!
Defining a part: its data registers, instructions, signals and boundary cells. Data registers come
before the instructions that select them, and signals before the cells that reach them.
-/

namespace Jtag.Part

/-- Fail if the name is taken. -/
def refuseTaken {α : Type} (found : Except PartError α) (taken : PartError) : PartAction Unit :=
  match found with
  | .ok _ => throw taken
  | .error _ => pure ()

/-- Set the length of the instruction register. It is fixed once there are instructions. -/
def setInstructionLength (length : Nat) : PartAction Unit := do
  let p ← get
  if !p.instructions.isEmpty && length != p.instructionLength then
    throw .instructionsAlreadyDefined
  set { p with instructionLength := length }

/-- Load the identification code into the output of the register at a position. -/
def preloadCode (p : Part) (index : Nat) : Part :=
  match p.id? with
  | none => p
  | some id => p.modifyRegister index fun r => { r with output := r.output.overlay id.bits }

/-- What the name of a new or resized register brings with it: the boundary scan register starts
without cells, and the identification register holds the code of the part. -/
def prepareRegister (p : Part) (name : String) (index length : Nat) : Part :=
  if name = bsr then { p with cells := List.replicate length none }
  else if name = dir then p.preloadCode index
  else p

/-- Add a data register; the answer has its position. -/
def addRegister (name : String) (length : Nat) : PartAction Nat := do
  let p ← get
  refuseTaken (p.registerIndex? name) (.duplicateDataRegister name)
  let register ← Action.ofExcept ((DataRegister.new? name length).mapError .register)
  let index := p.registers.length
  set ({ p with registers := p.registers ++ [register] }.prepareRegister name index length)
  return index

/-- Cut the ties between signals and cells. -/
def unmapSignals (p : Part) : Part :=
  { p with signals := p.signals.map fun s => { s with input? := none, output? := none } }

/-- Change the length of a data register, clearing it. Of the boundary scan register all cells are
dropped, so that signals have to be mapped again. -/
def resizeRegister (name : String) (length : Nat) : PartAction Unit := do
  let p ← get
  let index ← Action.ofExcept (p.registerIndex? name)
  let register ← Action.ofExcept ((DataRegister.new? name length).mapError .register)
  let resized := p.modifyRegister index fun r =>
    { r with input := register.input, output := register.output }
  let unmapped := if name = bsr then resized.unmapSignals else resized
  set (unmapped.prepareRegister name index length)

/-- Add an instruction with an opcode in text form; the answer has its position. The length of the
text is counted in bytes. -/
def addInstruction (name code : String) (register? : Option String) : PartAction Nat := do
  let p ← get
  refuseTaken (p.instructionIndex? name) (.duplicateInstruction name)
  if code.utf8ByteSize ≠ p.instructionLength then
    throw (.instructionLengthMismatch p.instructionLength code.utf8ByteSize)
  let opcode ← Action.ofExcept ((Register.ofText? code).mapError .register)
  let selected ← match register? with
    | none => pure none
    | some register => some <$> Action.ofExcept (p.registerIndex? register)
  let instruction := { Instruction.new name opcode with register? := selected }
  set { p with instructions := p.instructions ++ [instruction] }
  return p.instructions.length

/-- Add a signal; the answer has its position. -/
def addSignal (name : String) (pin? : Option String) : PartAction Nat := do
  let p ← get
  refuseTaken (p.signalIndex? name) (.duplicateSignal name)
  set { p with signals := p.signals ++ [Signal.new name pin?] }
  return p.signals.length

/-- Give a signal another name. -/
def addAlias (other signal : String) : PartAction Unit := do
  let p ← get
  refuseTaken (p.signalIndex? other) (.duplicateSignal other)
  let index ← Action.ofExcept (p.signalIndex? signal)
  set { p with aliases := p.aliases ++ [SignalAlias.mk other index] }

/-- The position of the boundary scan register. -/
def boundaryIndex? (p : Part) : Except PartError Nat :=
  (p.registerIndex? bsr).mapError fun _ => .boundaryScanRegisterMissing

/-- Set a bit of what the register at a position shifts in. The register may have been replaced by
one of another length, so the bit is checked against the one that is there. -/
def setInputBit (index bit : Nat) (value : Bool) : PartAction Unit := do
  let p ← get
  match p.registers[index]? with
  | none => pure ()
  | some register =>
    match register.input.set? bit value with
    | none => throw (.bitOutOfRange bit register.input.length)
    | some input => set (p.modifyRegister index fun r => { r with input })

/-- Tie a cell to its signal, in the directions the type of the cell has. -/
def mapSignal (p : Part) (index bit : Nat) (type : CellType) : Part :=
  p.modifySignal index fun s =>
    { s with
      input? := if type.isInput then some bit else s.input?
      output? := if type.isOutput then some bit else s.output? }

/-- Define a boundary cell. It is loaded with its safe value. If there is a signal of the given
name, the cell becomes its input or output or both. -/
def defineCell (bit : Nat) (type : CellType) (safe : Bool) (signal : String)
    (control? : Option ControlCell) : PartAction Unit := do
  let p ← get
  let boundary ← Action.ofExcept p.boundaryIndex?
  let length := p.boundaryLength
  unless bit < length do throw (.bitOutOfRange bit length)
  if let some control := control? then
    unless control.bit < length do throw (.bitOutOfRange control.bit length)
  if (p.cell? bit).isSome then throw (.duplicateBit bit)
  setInputBit boundary bit safe
  let signal? := (p.signalIndex? signal).toOption
  if let some index := signal? then
    Action.change fun p => p.mapSignal index bit type
  Action.change fun p =>
    { p with cells := p.cells.set bit (some ⟨bit, signal, type, signal?, safe, control?⟩) }

end Jtag.Part
