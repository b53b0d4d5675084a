import Jtag.IdCode.Basic
import Jtag.Word

/-!
Splitting the register paths captured after a reset into one entry per part. On the data path a part
shows its identification code, which starts with a one, or the single zero of its bypass register. On
the instruction path every register starts with a one followed by a zero. Positions in a path are
counted in machine words.
-/

namespace Jtag

/-- Why the captured paths of a chain cannot be understood. -/
inductive ScanError where
  | invalidIdCode (id : IdCode)
  /-- The data path ends within an identification code. -/
  | truncatedIdCode
  /-- The instruction path does not fit the parts that were found. -/
  | invalidIr
  /-- The end of the chain was not seen within as many bits. -/
  | chainTooLong (bits : Nat)
deriving DecidableEq, Repr

def ScanError.message : ScanError → String
  | invalidIdCode id => s!"Invalid IDCODE {id.hex}"
  | truncatedIdCode => "The data register chain ends in a truncated IDCODE"
  | invalidIr => "The instruction register capture does not match the detected parts"
  | chainTooLong bits => s!"The chain is longer than the scanned {bits} bits"

/-- A stable code for each kind of scan error. -/
def ScanError.code : ScanError → String
  | invalidIdCode _ => "ScanChain.InvalidIdCode"
  | truncatedIdCode => "ScanChain.TruncatedIdCode"
  | invalidIr => "ScanChain.InvalidIr"
  | chainTooLong _ => "ScanChain.ChainTooLong"

/-- What exactly does not fit about an instruction path. -/
inductive SplitFault where
  /-- There are fewer register starts than parts, or none at the first bit. -/
  | unfit
  /-- The expected lengths are not as many as the parts, or do not add up to the path. -/
  | wrongSum (expected : List Nat) (captured parts : Nat)
  /-- An expected register would start where none can. -/
  | noStart (offset : Nat)
  /-- There are more possible starts than parts. -/
  | ambiguous (candidates parts : Nat)
deriving DecidableEq, Repr

namespace Scan

/-- The number of leading positions in which two rows agree. Two patterns sent through one chain
bring the same captured bits back until the patterns themselves arrive. -/
def agreement : List Bool → List Bool → Nat
  | a :: as, b :: bs => if a = b then agreement as bs + 1 else 0
  | _, _ => 0

/-- Split a data path: nothing for a part in bypass, else its identification code. -/
def idCodes? : List Bool → Except ScanError (List (Option IdCode))
  | [] => .ok []
  | false :: rest => (idCodes? rest).map (none :: ·)
  | true :: rest =>
    match IdCode.ofBits? (true :: rest) with
    | none => .error .truncatedIdCode
    | some id =>
      if id.valid then (idCodes? (rest.drop (IdCode.length - 1))).map (some id :: ·)
      else .error (.invalidIdCode id)
termination_by bits => bits.length
decreasing_by
  · exact Nat.lt_succ_self _
  · rw [List.length_drop, List.length_cons]
    omega

/-- The positions of a one followed by a zero, counted from `offset`. -/
def startsFrom : Nat → List Bool → List Nat
  | _, [] => []
  | offset, b :: rest =>
    if b && rest.head? == some false then offset :: startsFrom (offset + 1) rest
    else startsFrom (offset + 1) rest

/-- Where registers may start in an instruction path. -/
def starts (ir : List Bool) : List Nat := startsFrom 0 ir

/-- The length of several registers in a row. -/
def total : List Nat → Nat
  | [] => 0
  | length :: rest => length + total rest

/-- The lengths of registers that start at the given positions and fill `total` bits. -/
def lengthsOfStarts (starts : List Nat) (total : Nat) : List Nat :=
  List.zipWith (fun first next => next - first) starts (starts.tail ++ [total])

/-- Check that a register can start at `offset` and behind every length but the last. -/
def checkStarts (starts : List Nat) : Nat → List Nat → Except SplitFault Unit
  | _, [] => .ok ()
  | offset, length :: rest =>
    if starts.contains offset then checkStarts starts (Word.wrap (offset + length)) rest
    else .error (.noStart offset)

/-- Split an instruction path into the register lengths of `parts` parts. Without expected lengths
the split has to be the only one. -/
def irLengths? (ir : List Bool) (parts : Nat) (expected? : Option (List Nat)) :
    Except SplitFault (List Nat) :=
  let starts := starts ir
  if parts = 0 ∨ starts.length < parts ∨ starts.head? ≠ some 0 then .error .unfit
  else match expected? with
    | some expected =>
      if expected.length ≠ parts ∨ Word.wrap (total expected) ≠ Word.wrap ir.length then
        .error (.wrongSum expected ir.length parts)
      else (checkStarts (starts.map Word.wrap) 0 expected).map fun _ => expected
    | none =>
      if parts = 1 then .ok [ir.length]
      else if parts = starts.length then .ok (lengthsOfStarts starts ir.length)
      else .error (.ambiguous starts.length parts)

end Scan
end Jtag
