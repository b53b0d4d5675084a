import Jtag.Action
import Jtag.IdCode.Basic
import Jtag.Part.Error

/-!
Parts of a chain: instructions, the data registers they select, and the pins that the boundary scan
register reaches. Instructions name their data register, and signals and cells each other, by the
position in the list of the part.
-/

namespace Jtag

structure Instruction where
  name : String
  /-- What is shifted into the instruction register. -/
  opcode : Register
  /-- What came out of the instruction register last. -/
  captured : Register
  captured_length : captured.length = opcode.length
  /-- The position of the selected data register. -/
  register? : Option Nat
deriving DecidableEq, Repr

/-- A data register: what is shifted in, and what came out last. -/
structure DataRegister where
  name : String
  input : Register
  output : Register
deriving DecidableEq, Repr

/-- A pin, with the boundary cells that sample and drive it. -/
structure Signal where
  name : String
  pin? : Option String
  input? : Option Nat
  output? : Option Nat
deriving DecidableEq, Repr

/-- A second name for a signal. -/
structure SignalAlias where
  name : String
  signal : Nat
deriving DecidableEq, Repr

/-- Whether a signal is sampled from the board or driven by the part. -/
inductive Direction where
  | input
  | output
deriving DecidableEq, Repr

/-- The function of a boundary cell. -/
inductive CellType where
  | input
  | output
  | bidirectional
  | control
  | internal
deriving DecidableEq, Repr

/-- The cell that switches an output on and off. -/
structure ControlCell where
  bit : Nat
  /-- The value that turns the output off. -/
  disableValue : Bool
deriving DecidableEq, Repr

/-- A cell of the boundary scan register. -/
structure BoundaryCell where
  bit : Nat
  name : String
  type : CellType
  /-- The position of the signal the cell belongs to. -/
  signal? : Option Nat
  /-- The value the cell is loaded with when it is defined. -/
  safe : Bool
  control? : Option ControlCell
deriving DecidableEq, Repr

/-- One chip of a chain. -/
structure Part where
  id? : Option IdCode
  /-- The name of the part on its board. -/
  alias? : Option String
  manufacturer : String
  name : String
  stepping : String
  instructionLength : Nat
  instructions : List Instruction
  registers : List DataRegister
  signals : List Signal
  aliases : List SignalAlias
  /-- One entry per bit of the boundary scan register. -/
  cells : List (Option BoundaryCell)
  /-- The position of the active instruction. -/
  active? : Option Nat
deriving DecidableEq, Repr

abbrev PartAction (α : Type) := Action Part PartError α

namespace CellType

/-- The cell samples its pin. -/
def isInput : CellType → Bool
  | input | bidirectional => true
  | _ => false

/-- The cell drives its pin. -/
def isOutput : CellType → Bool
  | output | bidirectional => true
  | _ => false

def letter : CellType → String
  | input => "I"
  | output => "O"
  | bidirectional => "B"
  | control => "C"
  | internal => "X"

/-- The cell type of a letter, upper or lower case. -/
def ofLetter? : String → Except PartError CellType
  | "I" | "i" => .ok input
  | "O" | "o" => .ok output
  | "B" | "b" => .ok bidirectional
  | "C" | "c" => .ok control
  | "X" | "x" => .ok internal
  | text => .error (.invalidBitType text)

end CellType

namespace DataRegister

def new? (name : String) (length : Nat) : Except RegisterError DataRegister := do
  let zeros ← Register.zeros? length
  return ⟨name, zeros, zeros⟩

def length (r : DataRegister) : Nat := r.input.length

end DataRegister

namespace Instruction

/-- An instruction that selects no data register yet. -/
def new (name : String) (opcode : Register) : Instruction :=
  ⟨name, opcode, opcode.fill false, opcode.length_fill false, none⟩

/-- Replace the opcode by one of the same length. -/
def withOpcode? (i : Instruction) (opcode : Register) : Except PartError Instruction :=
  if h : opcode.length = i.opcode.length then
    .ok { i with opcode, captured_length := i.captured_length.trans h.symm }
  else .error (.instructionLengthMismatch i.opcode.length opcode.length)

/-- Take over what came out of the instruction register, as far as it reaches. -/
def capture (i : Instruction) (bits : List Bool) : Instruction :=
  { i with
    captured := i.captured.overlay bits
    captured_length := (i.captured.length_overlay bits).trans i.captured_length }

end Instruction

namespace Signal

/-- A signal that no cell reaches yet. -/
def new (name : String) (pin? : Option String) : Signal := ⟨name, pin?, none, none⟩

end Signal

namespace Part

/-- The name of the boundary scan register. -/
def bsr : String := "BSR"
/-- The name of the identification register. -/
def dir : String := "DIR"
/-- The name of the bypass register and of the instruction that selects it. -/
def bypass : String := "BYPASS"

/-- A part of which nothing but the identification code is known. -/
def new (id? : Option IdCode) : Part where
  id? := id?
  alias? := none
  manufacturer := ""
  name := ""
  stepping := ""
  instructionLength := 0
  instructions := []
  registers := []
  signals := []
  aliases := []
  cells := []
  active? := none

def instructionIndex? (p : Part) (name : String) : Except PartError Nat :=
  match p.instructions.findIdx? (·.name == name) with
  | some index => .ok index
  | none => .error (.instructionNotFound name)

/-- The position of a data register. -/
def registerIndex? (p : Part) (name : String) : Except PartError Nat :=
  match p.registers.findIdx? (·.name == name) with
  | some index => .ok index
  | none => .error (.dataRegisterNotFound name)

/-- The position of a signal, by its name or by one of its other names. -/
def signalIndex? (p : Part) (name : String) : Except PartError Nat :=
  match p.signals.findIdx? (·.name == name) with
  | some index => .ok index
  | none =>
    match p.aliases.find? (·.name == name) with
    | some other => .ok other.signal
    | none => .error (.signalNotFound name)

def register? (p : Part) (name : String) : Except PartError DataRegister :=
  match p.registers.find? (·.name == name) with
  | some register => .ok register
  | none => .error (.dataRegisterNotFound name)

/-- The length of the boundary scan register, zero without one. -/
def boundaryLength (p : Part) : Nat := p.cells.length

def cell? (p : Part) (bit : Nat) : Option BoundaryCell := p.cells[bit]?.join

def activeInstruction? (p : Part) : Option Instruction := do p.instructions[← p.active?]?

/-- The position of the data register that the active instruction selects. -/
def activeRegisterIndex? (p : Part) : Option Nat := do (← p.activeInstruction?).register?

/-- The data register that the active instruction selects. -/
def activeRegister? (p : Part) : Option DataRegister := do p.registers[← p.activeRegisterIndex?]?

/-- Change the instruction at a position. -/
def modifyInstruction (p : Part) (index : Nat) (f : Instruction → Instruction) : Part :=
  { p with instructions := p.instructions.modify index f }

/-- Change the data register at a position. -/
def modifyRegister (p : Part) (index : Nat) (f : DataRegister → DataRegister) : Part :=
  { p with registers := p.registers.modify index f }

/-- Change the signal at a position. -/
def modifySignal (p : Part) (index : Nat) (f : Signal → Signal) : Part :=
  { p with signals := p.signals.modify index f }

end Part
end Jtag
