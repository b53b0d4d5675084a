import Jtag.Bits
import Jtag.IdCode.Basic

/-!
A simulated device: one controller with an instruction register and the data registers its
instructions select. Registers are loaded when a capture state is left, shifted in a shift state, and
latched when an update state is entered. A register of no bits passes what comes in straight on.
-/

namespace Jtag.Sim

/-- The data register an instruction puts between TDI and TDO. -/
inductive Selection where
  /-- One bit, which captures `0`. -/
  | bypass
  | idCode
  /-- A storage register, which captures what was last latched into it. -/
  | data (length : Nat)
deriving DecidableEq, Repr

structure Device where
  irLength : Nat
  irLength_pos : 0 < irLength
  idCode? : Option IdCode
  /-- What instructions select, the first entry for an opcode deciding. Others select bypass. -/
  instructions : List (UInt64 × Selection)
  irShift : List Bool
  drShift : List Bool
  /-- The instruction latched last. -/
  instruction : UInt64
  selected : Selection
  /-- What the storage registers hold, the first entry for an opcode deciding. -/
  storage : List (UInt64 × List Bool)
  /-- How often an instruction was latched. -/
  irUpdates : Nat
deriving DecidableEq, Repr

namespace Device

/-- The instruction of all ones, as far as 64 bits reach. -/
def allOnes (d : Device) : UInt64 := Bits.low64 (List.replicate d.irLength true)

/-- The one cleared bit of the bypass register. -/
def bypassBit : List Bool := [false]

/-- The state after Test-Logic-Reset: the identification code is selected where there is one. -/
def reset (d : Device) : Device :=
  { d with
    instruction := d.allOnes
    selected := if d.idCode?.isSome then .idCode else .bypass
    irShift := List.replicate d.irLength false
    drShift := bypassBit }

/-- A device with an instruction register of `irLength` bits, at least one, and no identification
code. -/
def new (irLength : Nat) : Device :=
  Device.reset
    { irLength := max irLength 1
      irLength_pos := Nat.le_max_right irLength 1
      idCode? := none
      instructions := []
      irShift := []
      drShift := []
      instruction := 0
      selected := .bypass
      storage := []
      irUpdates := 0 }

/-- Give the device an identification code, selected after a reset. -/
def withIdCode (d : Device) (id : IdCode) : Device := Device.reset { d with idCode? := some id }

/-- What the storage register of `opcode` holds. -/
def stored? (d : Device) (opcode : UInt64) : Option (List Bool) :=
  (d.storage.find? (·.1 == opcode)).map (·.2)

/-- Put bits into the storage register of `opcode`. -/
def store (d : Device) (opcode : UInt64) (bits : List Bool) : Device :=
  { d with storage := (opcode, bits) :: d.storage.filter (·.1 != opcode) }

/-- Let `opcode` select a data register. -/
def withInstruction (d : Device) (opcode : UInt64) (selection : Selection) : Device :=
  let listed := { d with instructions := d.instructions ++ [(opcode, selection)] }
  match selection with
  | .data length => listed.store opcode (List.replicate length false)
  | _ => listed

/-- What the instruction register captures: a one in the first bit, zeros in the others. -/
def irCapture (d : Device) : List Bool := true :: List.replicate (d.irLength - 1) false

/-- What the selected data register captures. -/
def drCapture (d : Device) : List Bool :=
  match d.selected with
  | .bypass => bypassBit
  | .idCode => (d.idCode?.map IdCode.bits).getD (List.replicate IdCode.length false)
  | .data length => (d.stored? d.instruction).getD (List.replicate length false)

def captureIr (d : Device) : Device := { d with irShift := d.irCapture }

def captureDr (d : Device) : Device := { d with drShift := d.drCapture }

/-- Shift one bit in; the answer has the bit that leaves. -/
def shiftBits (bits : List Bool) (tdi : Bool) : List Bool × Bool :=
  match bits with
  | [] => ([], tdi)
  | tdo :: rest => (rest ++ [tdi], tdo)

def shiftIr (d : Device) (tdi : Bool) : Device × Bool :=
  let (irShift, tdo) := shiftBits d.irShift tdi
  ({ d with irShift }, tdo)

def shiftDr (d : Device) (tdi : Bool) : Device × Bool :=
  let (drShift, tdo) := shiftBits d.drShift tdi
  ({ d with drShift }, tdo)

/-- What an instruction selects. The instruction of all ones always selects bypass. -/
def selectionOf (d : Device) (opcode : UInt64) : Selection :=
  if opcode = d.allOnes then .bypass
  else ((d.instructions.find? (·.1 == opcode)).map (·.2)).getD .bypass

/-- Latch the instruction register. -/
def updateIr (d : Device) : Device :=
  let instruction := Bits.low64 d.irShift
  { d with instruction, selected := d.selectionOf instruction, irUpdates := d.irUpdates + 1 }

/-- Latch the selected data register, if it is one that stores. -/
def updateDr (d : Device) : Device :=
  match d.selected with
  | .data _ => d.store d.instruction d.drShift
  | _ => d

end Device
end Jtag.Sim
