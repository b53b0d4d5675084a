/-!
Sets of characters, as ranges of code points.
-/

namespace Jtag.Text

/-- A closed range of code points. -/
structure CodeRange where
  first : Nat
  last : Nat

namespace CodeRange

/-- The character lies in the range. -/
def contains (r : CodeRange) (c : Char) : Bool := r.first ≤ c.toNat && c.toNat ≤ r.last

/-- The character lies in one of the ranges. -/
def anyContains (ranges : List CodeRange) (c : Char) : Bool := ranges.any (·.contains c)

end CodeRange
end Jtag.Text
