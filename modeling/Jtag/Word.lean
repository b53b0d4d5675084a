/-!
Machine words. Lengths, positions and counts are words of 64 bits, and a sum or a product that does not
fit one loses what is above it. A row of bits cannot even be as long as a word could tell.
-/

namespace Jtag.Word

/-- The number of values of a word. -/
def size : Nat := UInt64.size

/-- What a word keeps of a number. -/
def wrap (n : Nat) : Nat := n % size

/-- The bits that a row holds at most: a word of its handle has their number and three more bits. -/
def rowLimit : Nat := size / 8 - 1

theorem wrap_of_lt {n : Nat} (h : n < size) : wrap n = n := Nat.mod_eq_of_lt h

/-- It does not matter whether a word is cut off before another one is added, or behind. -/
theorem wrap_wrap_add (m n : Nat) : wrap (wrap m + n) = wrap (m + n) := Nat.mod_add_mod m size n

end Jtag.Word
