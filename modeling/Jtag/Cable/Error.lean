import Jtag.Text.Quoted

/-!
What can go wrong with a cable, and what is said about it.
-/

namespace Jtag

/-- A failure of the connection to the hardware. -/
inductive IoError where
  /-- A sample was answered by a byte that is neither `0` nor `1`. -/
  | invalidData (byte : UInt8)
  /-- Fewer answers than samples asked for. -/
  | unexpectedEnd
  /-- The other side takes nothing more. -/
  | writeZero
  | brokenPipe
  /-- An address that cannot be one. -/
  | invalidInput
deriving DecidableEq, Repr

/-- A failure of a cable operation. -/
inductive CableError where
  | io (cause : IoError)
  | queueEmpty
  /-- The oldest result is not of the kind asked for. -/
  | queueOutOfSync
  | outOfMemory
  | driverNotFound (name : String)
  | invalidParameter (param : String)
  | notSupported (what : String)
  /-- A failure only one kind of cable knows. -/
  | specific (cause : String)
  | other (message : String)
deriving DecidableEq, Repr

namespace CableError

def message : CableError → String
  | io _ => "Communication with the cable failed"
  | queueEmpty => "The cable queue is empty"
  | queueOutOfSync => "The cable result queue is out of sync with the requested operation"
  | outOfMemory => "Out of memory while growing the cable queue"
  | driverNotFound name => s!"No cable driver named '{name}' is known"
  | invalidParameter param => s!"Invalid cable parameter '{param}'"
  | notSupported what => s!"The cable does not support {what}"
  | specific _ => "An error specific to a cable type occured"
  | other message => message

/-- What lies behind an error, outermost first. Of a broken connection only a wrong answer is
told, since the rest is worded by the system. -/
def causes : CableError → List String
  | io (.invalidData byte) => [s!"unexpected TDO response {Text.hex 2 byte.toNat}"]
  | specific cause => [cause]
  | _ => []

/-- A stable code for each kind of cable error. -/
def code : CableError → String
  | io (.invalidData _) => "Cable.Io.InvalidData"
  | io .unexpectedEnd => "Cable.Io.UnexpectedEof"
  | io .writeZero => "Cable.Io.WriteZero"
  | io .brokenPipe => "Cable.Io.BrokenPipe"
  | io .invalidInput => "Cable.Io.InvalidInput"
  | queueEmpty => "Cable.QueueEmpty"
  | queueOutOfSync => "Cable.QueueOutOfSync"
  | outOfMemory => "Cable.OutOfMemory"
  | driverNotFound _ => "Cable.DriverNotFound"
  | invalidParameter _ => "Cable.InvalidParameter"
  | notSupported _ => "Cable.NotSupported"
  | specific _ => "Cable.CableSpecific"
  | other _ => "Cable.Other"

end CableError
end Jtag
