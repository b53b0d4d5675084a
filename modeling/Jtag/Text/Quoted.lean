import Jtag.Text.Printable

/-!
Characters shown in single quotes. Characters that would not be seen, or that would attach to their
neighbour, are written as an escape instead.
-/

namespace Jtag.Text

/-- The digit of a number below 16 in lower case. -/
def hexDigit (n : Nat) : Char :=
  if n < 10 then Char.ofNat ('0'.toNat + n) else Char.ofNat ('a'.toNat + (n - 10))

/-- The digits of a number in base `base`, most significant first, at least one. -/
def digits (base : Nat) (n : Nat) : List Char :=
  if base < 2 ∨ n < base then [hexDigit n]
  else digits base (n / base) ++ [hexDigit (n % base)]
termination_by n
decreasing_by exact Nat.div_lt_self (by omega) (by omega)

/-- Digits filled up with zeros on the left to a width. -/
def padded (width base n : Nat) : String :=
  let shown := digits base n
  String.ofList (List.replicate (width - shown.length) '0' ++ shown)

/-- Hexadecimal digits behind `0x`, filled up with zeros so that `width` digits follow. -/
def hex (width n : Nat) : String := "0x" ++ padded width 16 n

/-- The character as it stands between single quotes. -/
def escape (c : Char) : String :=
  match c with
  | '\x00' => "\\0"
  | '\t' => "\\t"
  | '\r' => "\\r"
  | '\n' => "\\n"
  | '\'' => "\\'"
  | '\\' => "\\\\"
  | c =>
    if isVisible c then c.toString
    else "\\u\x7b" ++ String.ofList (digits 16 c.toNat) ++ "\x7d"

/-- The character in single quotes. -/
def quoted (c : Char) : String := "'" ++ escape c ++ "'"

end Jtag.Text
