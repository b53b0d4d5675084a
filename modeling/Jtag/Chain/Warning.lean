import Jtag.Chain.Error
import Jtag.IdCode.Manufacturer
import Jtag.Tap.State

/-!
Things a chain tells its user about without failing.
-/

namespace Jtag

inductive Warning where
  /-- A capture was asked for in a state from which it cannot start. -/
  | captureFrom (column : Tap.Column) (state : Tap.State)
  /-- A shift was asked for in a state from which it cannot start. -/
  | shiftFrom (state : Tap.State)
  | noActiveInstruction (part : Nat)
  | noDataRegister (instruction : String) (part : Nat)
  /-- TDO never changed while a length was looked for. -/
  | stuckTdo (level : Bool)
  | unknownIrLength
  | truncatedIdCode
  | invalidIdCode (id : IdCode)
  | split (fault : SplitFault)
  /-- A definition has another instruction length than the chain shows. -/
  | otherLength (id : IdCode) (defined scanned : Nat)
  /-- A definition cannot be applied. -/
  | badDefinition (id : IdCode) (cause : PartError)
  | disconnectFailed (cause : Error)
deriving DecidableEq, Repr

namespace Warning

def lengths (ns : List Nat) : String := "[" ++ ", ".intercalate (ns.map toString) ++ "]"

/-- What is said about an instruction path that does not fit. -/
def splitMessage : SplitFault → String
  | .unfit => "Instruction register capture"
  | .wrongSum expected captured parts =>
    s!"Expected instruction lengths {lengths expected} do not add up to the {captured} bit " ++
      s!"capture of {parts} parts"
  | .noStart offset => s!"No instruction register can start at bit {offset}"
  | .ambiguous candidates parts =>
    s!"Instruction register lengths are ambiguous, {candidates} candidates for {parts} parts"

def message (names : Manufacturers) : Warning → String
  | captureFrom column state =>
    s!"Capture-{column.name} requested in invalid state {state.name}"
  | shiftFrom state => s!"Shifting a register in invalid state {state.name}"
  | noActiveInstruction part => s!"Part {part} has no active instruction"
  | noDataRegister instruction part =>
    s!"Instruction {instruction} of part {part} selects no data register"
  | stuckTdo level => s!"TDO seems to be stuck at {level.toNat}"
  | unknownIrLength => "Could not detect the instruction register length"
  | truncatedIdCode => "Truncated IDCODE"
  | invalidIdCode id => s!"Invalid IDCODE: {id.hex}"
  | split fault => splitMessage fault
  | otherLength id defined scanned =>
    s!"The definition of part {id.display names} has a {defined} bit instruction register, " ++
      s!"the chain shows {scanned}"
  | badDefinition id cause =>
    s!"Ignoring the definition of part {id.display names}: {cause.message}"
  | disconnectFailed cause => s!"Failed to disconnect the cable: {cause.message}"

end Warning
end Jtag
