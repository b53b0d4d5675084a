/-!
Reading positions in a document, and the classes of characters that its structure rests on.
-/

namespace Jtag.Yaml

/-- Characters that may occur in a document at all. -/
def isAllowed (c : Char) : Bool :=
  let n := c.toNat
  n == 0x09 || n == 0x0a || n == 0x0d || (0x20 ≤ n && n ≤ 0x7e) || n == 0x85
    || (0xa0 ≤ n && n ≤ 0xd7ff) || (0xe000 ≤ n && n ≤ 0xfffd) || 0x10000 ≤ n

/-- A space or a tab. -/
def isBlank (c : Char) : Bool := c == ' ' || c == '\t'

/-- A line break: carriage return, line feed, next line, line or paragraph separator. -/
def isBreak (c : Char) : Bool :=
  c == '\r' || c == '\n' || c.toNat == 0x85 || c.toNat == 0x2028 || c.toNat == 0x2029

/-- Letters, digits, the underscore and the hyphen, which names are made of. -/
def isNameChar (c : Char) : Bool := c.isAlphanum || c == '_' || c == '-'

/-- The mark that may open a line. -/
def isByteOrderMark (c : Char) : Bool := c.toNat == 0xfeff

/-- The number of bytes that a text takes in UTF-8. -/
def byteCount (text : List Char) : Nat := text.foldl (fun n c => n + c.utf8Size) 0

/-- A position in a document. -/
structure Cursor where
  /-- The text from here on. -/
  rest : List Char
  line : Nat
  /-- Characters before this position in its line. -/
  column : Nat
  /-- Bytes before this position. -/
  index : Nat

namespace Cursor

def start (text : List Char) : Cursor := ⟨text, 0, 0, 0⟩

/-- The character `n` places on. -/
def peek? (c : Cursor) (n : Nat) : Option Char := c.rest[n]?

def atEnd (c : Cursor) : Bool := c.rest.isEmpty

/-- The character `n` places on is `x`. -/
def sees (c : Cursor) (n : Nat) (x : Char) : Bool := c.peek? n == some x

def atBlank (c : Cursor) : Bool := (c.peek? 0).any isBlank

/-- There is a line break here. -/
def atBreak (c : Cursor) : Bool := (c.peek? 0).any isBreak

/-- The place `n` places on is a blank, a line break or the end. -/
def spaceAt (c : Cursor) (n : Nat) : Bool :=
  match c.peek? n with
  | none => true
  | some x => isBlank x || isBreak x

def atLineEnd (c : Cursor) : Bool := c.atEnd || c.atBreak

/-- Step over `n` characters within a line. -/
def skip (c : Cursor) (n : Nat) : Cursor :=
  ⟨c.rest.drop n, c.line, c.column + n, c.index + byteCount (c.rest.take n)⟩

/-- Step over the characters of a class within a line. -/
def skipWhile (c : Cursor) (p : Char → Bool) : Cursor := c.skip (c.rest.takeWhile p).length

/-- Step over a line break. -/
def skipBreak (c : Cursor) : Cursor :=
  let n := if c.sees 0 '\r' && c.sees 1 '\n' then 2 else 1
  ⟨c.rest.drop n, c.line + 1, 0, c.index + byteCount (c.rest.take n)⟩

/-- What a line break stands for: the two separators themselves, a line feed for all others. -/
def breakText (c : Cursor) : List Char :=
  match c.peek? 0 with
  | some x => if x.toNat == 0x2028 || x.toNat == 0x2029 then [x] else if isBreak x then ['\n'] else []
  | none => []

/-- A line that starts with three equal characters and a space: the start or end of a document. -/
def atMarker (c : Cursor) (x : Char) : Bool :=
  c.column == 0 && c.sees 0 x && c.sees 1 x && c.sees 2 x && c.spaceAt 3

/-- The start or end of a document is marked here. -/
def atDocumentMarker (c : Cursor) : Bool := c.atMarker '-' || c.atMarker '.'

/-- Step over blanks, and over a comment that follows. -/
def skipBlanksAndComment (c : Cursor) : Cursor :=
  let c := c.skipWhile isBlank
  if c.sees 0 '#' then c.skipWhile (fun x => !isBreak x) else c

end Cursor
end Jtag.Yaml
