import Jtag.Register.Basic
import Jtag.Text.Quoted

/-!
Identification codes: 32 bits a part may capture after a reset, with a revision, a part number, a
manufacturer code of a continuation count and an identity, and a marker bit that is always set.
-/

namespace Jtag

/-- The identification code of a part. -/
structure IdCode where
  value : BitVec 32
deriving DecidableEq, Repr

namespace IdCode

/-- Bits of an identification code. -/
def length : Nat := 32

/-- A field: the lowest bit and the number of bits. -/
structure Field where
  low : Nat
  width : Nat

namespace Field

/-- The revision of the part. -/
def version : Field := ⟨28, 4⟩
def partNumber : Field := ⟨12, 16⟩
/-- The whole manufacturer code, continuation and identity. -/
def manufacturer : Field := ⟨1, 11⟩
def continuation : Field := ⟨8, 4⟩
def identity : Field := ⟨1, 7⟩
def marker : Field := ⟨0, 1⟩

end Field

def get (id : IdCode) (field : Field) : Nat :=
  ((id.value >>> field.low).setWidth field.width).toNat

/-- Put a number into a field; what does not fit is dropped. -/
def set (id : IdCode) (field : Field) (n : Nat) : IdCode :=
  let place (bits : BitVec field.width) : BitVec 32 := bits.setWidth 32 <<< field.low
  ⟨id.value &&& ~~~place (BitVec.allOnes field.width) ||| place (BitVec.ofNat field.width n)⟩

def version (id : IdCode) : Nat := id.get .version
def partNumber (id : IdCode) : Nat := id.get .partNumber
def manufacturer (id : IdCode) : Nat := id.get .manufacturer
def continuation (id : IdCode) : Nat := id.get .continuation
def identity (id : IdCode) : Nat := id.get .identity
def marker (id : IdCode) : Bool := id.get .marker == 1

/-- The code in the first 32 bits of a row, if there are as many. -/
def ofBits? (bits : List Bool) : Option IdCode :=
  if length ≤ bits.length then some ⟨BitVec.ofNat 32 (Bits.toNat (bits.take length))⟩ else none

/-- The bits of a code in wire order. -/
def bits (id : IdCode) : List Bool := Bits.ofNat length id.value.toNat

def register (id : IdCode) : Register := ⟨id.bits, by simp [bits, Bits.ofNat, length]⟩

/-- The marker is set, and the identity is none of the two reserved values. -/
def valid (id : IdCode) : Bool := id.marker && id.identity != 0 && id.identity != 0x7f

/-- A code as it is looked up in a database: manufacturer, part number and version in binary. -/
structure Key where
  manufacturer : String
  partNumber : String
  version : String
deriving DecidableEq, Repr

def key (id : IdCode) : Key where
  manufacturer := Text.padded 11 2 id.manufacturer
  partNumber := Text.padded 16 2 id.partNumber
  version := Text.padded 4 2 id.version

def hex (id : IdCode) : String := Text.hex 8 id.value.toNat

end IdCode
end Jtag
