/-!
Rows of bits as they travel over a wire: index 0 is clocked first. Read as a number, index 0 is the
least significant bit; written as text, the most significant bit comes first.
-/

namespace Jtag.Bits

/-- The number a row of bits spells, index 0 least significant. -/
def toNat : List Bool → Nat
  | [] => 0
  | b :: rest => b.toNat + 2 * toNat rest

/-- The lowest `length` bits of a number, index 0 least significant. -/
def ofNat : Nat → Nat → List Bool
  | 0, _ => []
  | length + 1, n => n.testBit 0 :: ofNat length (n / 2)

/-- The number in the first 64 bits. -/
def low64 (bits : List Bool) : UInt64 := UInt64.ofNat (toNat (bits.take 64))

def digit (b : Bool) : Char := if b then '1' else '0'

def ofDigit? : Char → Option Bool
  | '0' => some false
  | '1' => some true
  | _ => none

/-- Text with the most significant bit first. -/
def text (bits : List Bool) : String := String.ofList (bits.reverse.map digit)

/-- Text in wire order: the bit that is clocked first is written first. -/
def wireText (bits : List Bool) : String := String.ofList (bits.map digit)

/-- Write `source` over the start of `target`, as far as both reach. -/
def overlay : List Bool → List Bool → List Bool
  | [], target => target
  | _, [] => []
  | b :: source, _ :: target => b :: overlay source target

@[simp] theorem length_ofNat (length n : Nat) : (ofNat length n).length = length := by
  induction length generalizing n with
  | zero => rfl
  | succ length ih => simp [ofNat, ih]

@[simp] theorem length_overlay (source target : List Bool) :
    (overlay source target).length = target.length := by
  induction source generalizing target with
  | nil => rfl
  | cons b source ih => cases target <;> simp [overlay, ih]

end Jtag.Bits
