import Jtag.Register.Basic

/-!
Registers as binary counters: counting and shifting modulo two to the length. The carry runs from
bit 0 upwards and stops at the first bit it does not flip on.
-/

namespace Jtag

/-- Add one; a row of ones becomes a row of zeros. -/
def Bits.succ : List Bool → List Bool
  | [] => []
  | false :: rest => true :: rest
  | true :: rest => false :: Bits.succ rest

/-- Subtract one; a row of zeros becomes a row of ones. -/
def Bits.pred : List Bool → List Bool
  | [] => []
  | true :: rest => false :: rest
  | false :: rest => true :: Bits.pred rest

/-- Move every bit `amount` places up, dropping what leaves at the top and filling with zeros. -/
def Bits.shiftUp (amount : Nat) (bits : List Bool) : List Bool :=
  if bits.length ≤ amount then List.replicate bits.length false
  else List.replicate amount false ++ bits.take (bits.length - amount)

/-- Move every bit `amount` places down, dropping what leaves at bit 0 and filling with zeros. -/
def Bits.shiftDown (amount : Nat) (bits : List Bool) : List Bool :=
  if bits.length ≤ amount then List.replicate bits.length false
  else bits.drop amount ++ List.replicate amount false

@[simp] theorem Bits.length_succ (bits : List Bool) : (Bits.succ bits).length = bits.length := by
  induction bits with
  | nil => rfl
  | cons b rest ih => cases b <;> simp [Bits.succ, ih]

@[simp] theorem Bits.length_pred (bits : List Bool) : (Bits.pred bits).length = bits.length := by
  induction bits with
  | nil => rfl
  | cons b rest ih => cases b <;> simp [Bits.pred, ih]

@[simp] theorem Bits.length_shiftUp (amount : Nat) (bits : List Bool) :
    (Bits.shiftUp amount bits).length = bits.length := by
  unfold Bits.shiftUp
  split
  · exact List.length_replicate
  · simp
    omega

@[simp] theorem Bits.length_shiftDown (amount : Nat) (bits : List Bool) :
    (Bits.shiftDown amount bits).length = bits.length := by
  unfold Bits.shiftDown
  split
  · exact List.length_replicate
  · simp
    omega

namespace Register

/-- Add one, wrapping to zero. -/
def increment (r : Register) : Register := r.withBits (Bits.succ r.bits) (by simp)

/-- Subtract one, wrapping to all ones. -/
def decrement (r : Register) : Register := r.withBits (Bits.pred r.bits) (by simp)

/-- Shift towards the most significant bit. -/
def shiftLeft (r : Register) (amount : Nat) : Register :=
  r.withBits (Bits.shiftUp amount r.bits) (by simp)

/-- Shift towards bit 0. -/
def shiftRight (r : Register) (amount : Nat) : Register :=
  r.withBits (Bits.shiftDown amount r.bits) (by simp)

end Register
end Jtag
