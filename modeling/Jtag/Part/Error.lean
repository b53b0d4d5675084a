import Jtag.Register.Text

/-!
What can go wrong while a part is defined or used.
-/

namespace Jtag

/-- A failure of an operation on a part. -/
inductive PartError where
  | instructionNotFound (name : String)
  | dataRegisterNotFound (name : String)
  | signalNotFound (name : String)
  | duplicateInstruction (name : String)
  | duplicateDataRegister (name : String)
  | duplicateSignal (name : String)
  | duplicateBit (bit : Nat)
  | boundaryScanRegisterMissing
  | bitOutOfRange (bit length : Nat)
  | instructionLengthMismatch (expected actual : Nat)
  | instructionsAlreadyDefined
  | notAnOutput (signal : String)
  | notAnInput (signal : String)
  | invalidBitType (text : String)
  | register (cause : RegisterError)
deriving DecidableEq, Repr

namespace PartError

def message : PartError → String
  | instructionNotFound name => s!"Unknown instruction '{name}'"
  | dataRegisterNotFound name => s!"Unknown data register '{name}'"
  | signalNotFound name => s!"Unknown signal '{name}'"
  | duplicateInstruction name => s!"Instruction '{name}' is already defined"
  | duplicateDataRegister name => s!"Data register '{name}' is already defined"
  | duplicateSignal name => s!"Signal '{name}' is already defined"
  | duplicateBit bit => s!"Boundary scan bit {bit} is already defined"
  | boundaryScanRegisterMissing => "The part has no boundary scan register"
  | bitOutOfRange bit length => s!"Bit {bit} is outside of the {length} bit boundary scan register"
  | instructionLengthMismatch expected actual =>
    s!"Instruction is {actual} bits long, the instruction register has {expected}"
  | instructionsAlreadyDefined =>
    "The instruction length cannot change once instructions are defined"
  | notAnOutput signal => s!"Signal '{signal}' cannot be driven as an output"
  | notAnInput signal => s!"Signal '{signal}' cannot be read as an input"
  | invalidBitType text => s!"Invalid boundary scan bit type '{text}'"
  | register cause => cause.message

/-- A stable code for each kind of part error. -/
def code : PartError → String
  | instructionNotFound _ => "Part.InstructionNotFound"
  | dataRegisterNotFound _ => "Part.DataRegisterNotFound"
  | signalNotFound _ => "Part.SignalNotFound"
  | duplicateInstruction _ => "Part.DuplicateInstruction"
  | duplicateDataRegister _ => "Part.DuplicateDataRegister"
  | duplicateSignal _ => "Part.DuplicateSignal"
  | duplicateBit _ => "Part.DuplicateBit"
  | boundaryScanRegisterMissing => "Part.BoundaryScanRegisterMissing"
  | bitOutOfRange .. => "Part.BitOutOfRange"
  | instructionLengthMismatch .. => "Part.InstructionLengthMismatch"
  | instructionsAlreadyDefined => "Part.InstructionsAlreadyDefined"
  | notAnOutput _ => "Part.NotAnOutput"
  | notAnInput _ => "Part.NotAnInput"
  | invalidBitType _ => "Part.InvalidBitType"
  | register cause => "Part." ++ cause.code

end PartError
end Jtag
