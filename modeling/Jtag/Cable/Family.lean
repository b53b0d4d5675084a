import Jtag.Cable.Error
import Jtag.Sim.Device
import Jtag.Text.Number

/-!
The families of cables that can be chosen by name, and what the parameters of each stand for.
-/

namespace Jtag

inductive Family where
  | remoteBitBang
  | sim
deriving DecidableEq, Repr

/-- What the parameters of a cable lead to. -/
inductive Endpoint where
  /-- A chain of simulated devices, the first one closest to TDO. -/
  | devices (devices : List Sim.Device)
  /-- A server to connect to. -/
  | server (host : String) (service : Nat)
deriving Repr

namespace Family

/-- All families, in the order they are listed. -/
def all : List Family := [remoteBitBang, sim]

def name : Family → String
  | remoteBitBang => "remote_bitbang"
  | sim => "sim"

def description : Family → String
  | remoteBitBang => "OpenOCD remote bitbang protocol over TCP"
  | sim => "Simulated chain of IEEE 1149.1 devices"

/-- The family of a name in any mix of upper and lower case letters. -/
def find? (name : String) : Except CableError Family :=
  match all.find? fun family => family.name.toLower == name.toLower with
  | some family => .ok family
  | none => .error (.driverNotFound name)

/-- The server that is asked for where none is named. -/
def defaultAddress : String := "127.0.0.1:44853"

/-- A host, and the number of a service behind the last colon. The name of a host is handed on as a
text that ends with a zero character, so there can be none in it. -/
def server? (address : String) : Except CableError Endpoint :=
  let read : Option Endpoint := do
    let (host, service) ← Text.splitLast? ':' address.toList
    let service ← Text.natOfSigned? 10 UInt16.size service
    guard (!host.contains '\x00')
    some (.server (String.ofList host) service)
  match read with
  | some endpoint => .ok endpoint
  | none => .error (.io .invalidInput)

/-- The hexadecimal digits of an identification code, with or without `0x` in front. -/
def codeDigits : List Char → List Char
  | '0' :: 'x' :: digits => digits
  | '0' :: 'X' :: digits => digits
  | digits => digits

/-- A device: the length of its instruction register, then a colon and an identification code in
hexadecimal if it has one. -/
def device? (param : String) : Except CableError Sim.Device :=
  let (irLength, code?) := match Text.splitFirst? ':' param.toList with
    | some (irLength, code) => (irLength, some code)
    | none => (param.toList, none)
  let read : Option Sim.Device := do
    let irLength ← Text.natOfSigned? 10 UInt64.size (Text.trim irLength)
    guard (irLength ≠ 0)
    match code? with
    | none => some (Sim.Device.new irLength)
    | some code =>
      let code ← Text.natOfSigned? 16 UInt32.size (codeDigits (Text.trim code))
      some ((Sim.Device.new irLength).withIdCode ⟨BitVec.ofNat 32 code⟩)
  match read with
  | some device => .ok device
  | none => .error (.invalidParameter param)

/-- What a cable of the family leads to with the given parameters. -/
def endpoint? (family : Family) (params : List String) : Except CableError Endpoint :=
  match family, params with
  | remoteBitBang, [] => server? defaultAddress
  | remoteBitBang, [address] => server? address
  | remoteBitBang, _ :: extra :: _ => .error (.invalidParameter extra)
  | sim, [] => .error (.invalidParameter "at least one device is required")
  | sim, params => (params.mapM device?).map .devices

end Family
end Jtag
