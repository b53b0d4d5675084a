/-!
Numbers written in digits, with a bound above which they are refused.
-/

namespace Jtag.Text

/-- The value of a digit in a base of at most sixteen. -/
def digitValue? (base : Nat) (c : Char) : Option Nat :=
  let value? :=
    if '0' ≤ c && c ≤ '9' then some (c.toNat - '0'.toNat)
    else if 'a' ≤ c && c ≤ 'f' then some (c.toNat - 'a'.toNat + 10)
    else if 'A' ≤ c && c ≤ 'F' then some (c.toNat - 'A'.toNat + 10)
    else none
  value?.filter (· < base)

/-- Read digits on top of a number already read. -/
def readDigits? (base : Nat) : List Char → Nat → Option Nat
  | [], n => some n
  | c :: rest, n => do
    let d ← digitValue? base c
    readDigits? base rest (n * base + d)

/-- The number that at least one digit spells, if it is below `bound`. -/
def natOfDigits? (base bound : Nat) (cs : List Char) : Option Nat :=
  if cs.isEmpty then none else (readDigits? base cs 0).filter (· < bound)

/-- As `natOfDigits?`, with a plus sign allowed in front. -/
def natOfSigned? (base bound : Nat) : List Char → Option Nat
  | '+' :: cs => natOfDigits? base bound cs
  | cs => natOfDigits? base bound cs

/-- The bytes that pairs of hexadecimal digits spell. -/
def bytesOfHex? : List Char → Option (List UInt8)
  | [] => some []
  | a :: b :: rest => do
    let n ← natOfDigits? 16 256 [a, b]
    return UInt8.ofNat n :: (← bytesOfHex? rest)
  | _ => none

/-- Characters that separate words in any script. -/
def isBlank (c : Char) : Bool :=
  let n := c.toNat
  (0x09 ≤ n && n ≤ 0x0d) || n == 0x20 || n == 0x85 || n == 0xa0 || n == 0x1680
    || (0x2000 ≤ n && n ≤ 0x200a) || n == 0x2028 || n == 0x2029 || n == 0x202f || n == 0x205f
    || n == 0x3000

/-- The text without blanks at its ends. -/
def trim (cs : List Char) : List Char :=
  ((cs.dropWhile isBlank).reverse.dropWhile isBlank).reverse

/-- The text before and after the first separator, if there is one. -/
def splitFirst? (separator : Char) : List Char → Option (List Char × List Char)
  | [] => none
  | c :: rest =>
    if c = separator then some ([], rest)
    else (splitFirst? separator rest).map fun (before, after) => (c :: before, after)

/-- The text before and after the last separator, if there is one. -/
def splitLast? (separator : Char) (cs : List Char) : Option (List Char × List Char) :=
  (splitFirst? separator cs.reverse).map fun (after, before) => (before.reverse, after.reverse)

end Jtag.Text
