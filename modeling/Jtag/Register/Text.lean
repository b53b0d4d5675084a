import Jtag.Register.Basic
import Jtag.Text.Quoted

/-!
Registers as text, the most significant bit first, so that the last character is bit 0. Reading
counts characters, and it looks at them from the last one on.
-/

namespace Jtag

def RegisterError.message : RegisterError → String
  | .invalidLength => "A register must be at least one bit long"
  | .lengthMismatch expected actual =>
    s!"Register length mismatch: expected {expected} bits, got {actual}"
  | .invalidCharacter c => s!"Invalid character {Text.quoted c} in bit string"

/-- A stable code for each kind of register error. -/
def RegisterError.code : RegisterError → String
  | .invalidLength => "Register.InvalidLength"
  | .lengthMismatch .. => "Register.LengthMismatch"
  | .invalidCharacter _ => "Register.InvalidCharacter"

/-- The bits of a row of digits, or the first character that is not one. -/
def Bits.ofDigits? : List Char → Except RegisterError (List Bool)
  | [] => .ok []
  | c :: rest =>
    match Bits.ofDigit? c with
    | none => .error (.invalidCharacter c)
    | some b => (Bits.ofDigits? rest).map (b :: ·)

theorem Bits.length_of_ofDigits? {cs : List Char} {bits : List Bool}
    (h : Bits.ofDigits? cs = .ok bits) : bits.length = cs.length := by
  induction cs generalizing bits with
  | nil => simp [Bits.ofDigits?] at h; simp [← h]
  | cons c rest ih =>
    simp only [Bits.ofDigits?] at h
    split at h
    · exact absurd h (by simp)
    · cases hr : Bits.ofDigits? rest with
      | error e => simp [hr, Except.map] at h
      | ok row =>
        simp [hr, Except.map] at h
        simp [← h, ih hr]

namespace Register

/-- The text of a register, most significant bit first. -/
def text (r : Register) : String := Bits.text r.bits

/-- The text of a register with its length, for listings. -/
def labelled (r : Register) : String := s!"TapRegister({r.length}: {r.text})"

/-- Load a register from a text of exactly as many characters. -/
def load? (r : Register) (s : String) : Except RegisterError Register :=
  if s.toList.length = r.length then do
    r.copyFrom? (← Bits.ofDigits? s.toList.reverse)
  else .error (.lengthMismatch r.length s.toList.length)

def ofText? (s : String) : Except RegisterError Register := do
  let blank ← zeros? s.toList.length
  blank.load? s

/-- Match against a pattern in which `?` stands for either bit. A pattern of another length, or
with any other character, matches nothing. -/
def matchesPattern (r : Register) (pattern : String) : Bool :=
  pattern.toList.length == r.length &&
    (pattern.toList.reverse.zip r.bits).all fun (c, b) => c == '?' || Bits.ofDigit? c == some b

end Register
end Jtag
