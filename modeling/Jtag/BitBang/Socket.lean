import Jtag.Action
import Jtag.Cable.Error

/-!
Byte connections: what an adapter needs from one, and a connection whose answers are written down
beforehand.
-/

namespace Jtag.BitBang

/-- A connection that takes and gives bytes. -/
class Socket (σ : Type) where
  /-- Send all bytes in order. A failure may come after some of them were taken. -/
  sendAll (bytes : List UInt8) : Action σ IoError Unit
  /-- Receive exactly as many bytes. A failure may come after some of them were consumed. -/
  receive (count : Nat) : Action σ IoError (List UInt8)

/-- A connection in memory. -/
structure Script where
  /-- Bytes that can still be received. -/
  responses : List UInt8
  /-- Bytes that were taken, first one first. -/
  taken : Array UInt8
  /-- Bytes that are taken at most, in total. -/
  limit? : Option Nat
deriving Repr

namespace Script

/-- Take the bytes that still fit. If some do not, the connection takes nothing more. -/
def sendAll (bytes : List UInt8) : Action Script IoError Unit := do
  let s ← get
  let fitting := match s.limit? with
    | none => bytes
    | some limit => bytes.take (limit - s.taken.size)
  set { s with taken := s.taken ++ fitting.toArray }
  if fitting.length < bytes.length then throw .writeZero

/-- Give the next bytes. If there are not as many, those that are left are consumed. -/
def receive (count : Nat) : Action Script IoError (List UInt8) := do
  let s ← get
  set { s with responses := s.responses.drop count }
  let bytes := s.responses.take count
  if bytes.length < count then throw .unexpectedEnd
  return bytes

instance : Socket Script where
  sendAll := sendAll
  receive := receive

end Script
end Jtag.BitBang
