/-!
The signals of a cable: which of its lines an operation names, or the levels that lines have.
-/

namespace Jtag

/-- One flag per line, in a word. As a selection it names lines, as levels it says which are high.
The two reset lines are active low, so a set flag means a released line. The upper flags stand for no
line; they are driven and sampled like the others. -/
structure Signals where
  word : BitVec 32
deriving DecidableEq, Repr

namespace Signals

/-- No line. -/
def none : Signals := ⟨0#32⟩

def tdiLine : Signals := ⟨1#32⟩
def tckLine : Signals := ⟨2#32⟩
def tmsLine : Signals := ⟨4#32⟩
/-- The test reset line alone. -/
def trstLine : Signals := ⟨8#32⟩
/-- The system reset line alone. -/
def resetLine : Signals := ⟨16#32⟩

/-- The lines both name. -/
def both (a b : Signals) : Signals := ⟨a.word &&& b.word⟩

/-- The lines either names. -/
def either (a b : Signals) : Signals := ⟨a.word ||| b.word⟩

/-- Both reset lines: selected, or released. -/
def resetLines : Signals := trstLine.either resetLine

/-- The test reset line is high. -/
def trst (levels : Signals) : Bool := levels.word.getLsbD 3

/-- The system reset line is high. -/
def reset (levels : Signals) : Bool := levels.word.getLsbD 4

/-- The levels after the lines in `mask` were driven to the levels in `value`. -/
def drive (levels mask value : Signals) : Signals :=
  ⟨levels.word &&& ~~~mask.word ||| value.word &&& mask.word⟩

/-- Every line that `lines` names is high. -/
def allHigh (levels lines : Signals) : Bool := both levels lines == lines

/-- The flags as a number. -/
def mask (s : Signals) : Nat := s.word.toNat

/-- The flags of a number below 2^32. -/
def ofMask (n : Nat) : Signals := ⟨BitVec.ofNat 32 n⟩

end Signals
end Jtag
