import Jtag.Bits

/-!
Registers: rows of at least one bit whose length is fixed when they are made. Bit 0 is the first one
clocked into or out of a chain.
-/

namespace Jtag

/-- Why a register cannot be made or loaded. -/
inductive RegisterError where
  /-- A register holds at least one bit. -/
  | invalidLength
  /-- A row of bits or a text differs in length from the register. -/
  | lengthMismatch (expected actual : Nat)
  /-- A text holds something other than `0` and `1`. -/
  | invalidCharacter (c : Char)
deriving DecidableEq, Repr

/-- An ordered row of at least one bit. -/
structure Register where
  /-- The bits, index 0 first clocked. -/
  bits : List Bool
  bits_ne_nil : bits ≠ []
deriving DecidableEq, Repr

namespace Register

def length (r : Register) : Nat := r.bits.length

theorem length_pos (r : Register) : 0 < r.length := List.length_pos_iff.mpr r.bits_ne_nil

/-- A register that holds a copy of `bits`. -/
def ofBits? (bits : List Bool) : Except RegisterError Register :=
  if h : bits = [] then .error .invalidLength else .ok ⟨bits, h⟩

/-- A register of `length` equal bits. -/
def filled? (length : Nat) (value : Bool) : Except RegisterError Register :=
  ofBits? (List.replicate length value)

/-- A register of `length` cleared bits. -/
def zeros? (length : Nat) : Except RegisterError Register := filled? length false

/-- A register of `length` bits that holds the low bits of `value`; bits above 64 are cleared. -/
def ofValue? (length : Nat) (value : UInt64) : Except RegisterError Register :=
  ofBits? (Bits.ofNat length value.toNat)

/-- Replace the bits by as many others. -/
def withBits (r : Register) (bits : List Bool) (h : bits.length = r.bits.length) : Register :=
  ⟨bits, fun hnil => r.bits_ne_nil (List.length_eq_zero_iff.mp (by rw [← h, hnil]; rfl))⟩

def get? (r : Register) (index : Nat) : Option Bool := r.bits[index]?

/-- Set the bit at `index`; nothing is answered where the register has no such bit. -/
def set? (r : Register) (index : Nat) (value : Bool) : Option Register :=
  if index < r.length then some (r.withBits (r.bits.set index value) (by simp)) else none

/-- Set every bit to `value`. -/
def fill (r : Register) (value : Bool) : Register :=
  r.withBits (List.replicate r.bits.length value) (by simp)

/-- Flip every bit. -/
def invert (r : Register) : Register := r.withBits (r.bits.map (!·)) (by simp)

/-- Take over `bits`, which have to be as many as the register holds. -/
def copyFrom? (r : Register) (bits : List Bool) : Except RegisterError Register :=
  if h : bits.length = r.bits.length then .ok (r.withBits bits h)
  else .error (.lengthMismatch r.length bits.length)

/-- Write sampled bits over the start of the register, as far as both reach. -/
def overlay (r : Register) (sampled : List Bool) : Register :=
  r.withBits (Bits.overlay sampled r.bits) (by simp)

@[simp] theorem length_withBits (r : Register) (bits : List Bool) (h : bits.length = r.bits.length) :
    (r.withBits bits h).length = r.length := h

@[simp] theorem length_fill (r : Register) (value : Bool) : (r.fill value).length = r.length := length_withBits ..

@[simp] theorem length_overlay (r : Register) (sampled : List Bool) : (r.overlay sampled).length = r.length :=
  length_withBits ..

/-- Whether two registers of one length hold the same bits. -/
def compare? (r other : Register) : Except RegisterError Bool :=
  if other.length = r.length then .ok (r.bits == other.bits)
  else .error (.lengthMismatch r.length other.length)

/-- The value that all bits share, if they do. -/
def uniform? (r : Register) : Option Bool :=
  if r.bits.all (· == true) then some true
  else if r.bits.all (· == false) then some false
  else none

/-- The number in the low 64 bits. -/
def low64 (r : Register) : UInt64 := Bits.low64 r.bits

/-- The number the register spells, bit 0 least significant. -/
def toNat (r : Register) : Nat := Bits.toNat r.bits

end Register
end Jtag
