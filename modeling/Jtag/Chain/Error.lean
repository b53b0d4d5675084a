import Jtag.Cable.Error
import Jtag.Part.Error
import Jtag.Scan.Split

/-!
What can go wrong with a chain, and what is said about it.
-/

namespace Jtag

/-- A failure of an operation on a chain. -/
inductive Error where
  | cable (cause : CableError)
  | register (cause : RegisterError)
  | part (cause : PartError)
  | scan (cause : ScanError)
  | noCable
  | partWithoutInstruction (index : Nat)
  | partWithoutDataRegister (index : Nat)
  | invalidPartIndex (index : Nat)
  /-- A failure of one of several parts. -/
  | inPart (index : Nat) (cause : PartError)
  | detectionFailed (what : String)
  /-- A row of so many bits cannot be held. The call is given up where it stands. -/
  | overlong (length : Nat)
deriving DecidableEq, Repr

namespace Error

def message : Error → String
  | cable _ => "An error with the cable occurred"
  | register cause => cause.message
  | part cause => cause.message
  | scan _ => "Scanning the chain failed"
  | noCable => "No cable is connected"
  | partWithoutInstruction index => s!"Part {index} has no active instruction"
  | partWithoutDataRegister index =>
    s!"The active instruction of part {index} selects no data register"
  | invalidPartIndex index => s!"Part {index} does not exist"
  | inPart index cause => s!"Part {index}: {cause.message}"
  | detectionFailed what => s!"Detection failed: {what}"
  | overlong _ => "capacity overflow"

/-- What lies behind an error, outermost first. -/
def causes : Error → List String
  | cable cause => cause.message :: cause.causes
  | scan cause => [cause.message]
  | inPart _ cause => [cause.message]
  | _ => []

/-- A stable code for each kind of error. -/
def code : Error → String
  | cable cause => "Error." ++ cause.code
  | register cause => "Error." ++ cause.code
  | part cause => "Error." ++ cause.code
  | scan cause => "Error." ++ cause.code
  | noCable => "Error.NoCable"
  | partWithoutInstruction _ => "Error.PartWithoutInstruction"
  | partWithoutDataRegister _ => "Error.PartWithoutDataRegister"
  | invalidPartIndex _ => "Error.InvalidPartIndex"
  | inPart _ cause => "Error.InPart." ++ cause.code
  | detectionFailed _ => "Error.DetectionFailed"
  | overlong _ => "Panic"

end Error
end Jtag
