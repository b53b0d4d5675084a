import Jtag.Text.Number
import Jtag.Yaml.Cursor
import Jtag.Yaml.Token

/-!
Anchors, aliases, tags and directives: the tokens that are made of names.
-/

namespace Jtag.Yaml

/-- The name of an anchor or alias behind its mark. -/
def anchorName? (c : Cursor) : Option (String × Cursor) := do
  let name := c.rest.takeWhile isNameChar
  let after := c.skip name.length
  guard (!name.isEmpty)
  guard (after.spaceAt 0
    || (after.peek? 0).any (['?', ':', ',', ']', '}', '%', '@', Char.ofNat 0x60].contains ·))
  some (String.ofList name, after)

/-- Characters of a resource name. The comma and the square brackets only occur where the name is
not part of a flow collection. -/
def isResourceChar (full : Bool) (c : Char) : Bool :=
  isNameChar c
    || [';', '/', '?', ':', '@', '&', '=', '+', '$', '.', '%', '!', '~', '*', '\'', '(', ')'].contains c
    || (full && [',', '[', ']'].contains c)

/-- The octet of an escape at the start of a text: a percent sign and two digits. -/
def octet? : List Char → Option UInt8
  | '%' :: a :: b :: _ => (Text.natOfDigits? 16 256 [a, b]).map UInt8.ofNat
  | _ => none

/-- The number of octets of a character, as the first of them tells. -/
def characterWidth? (first : UInt8) : Option Nat :=
  if first < 0x80 then some 1
  else if first < 0xc0 then none
  else if first < 0xe0 then some 2
  else if first < 0xf0 then some 3
  else if first < 0xf8 then some 4
  else none

/-- Escaped octets that continue a character. -/
def continuation? : Nat → List Char → Option TagBytes
  | 0, _ => some []
  | count + 1, text => do
    let octet ← octet? text
    guard (0x80 ≤ octet && octet < 0xc0)
    return octet :: (← continuation? count (text.drop 3))

/-- The escaped octets of one character. They have to be as many as the first one tells, but need not
be the shortest ones, nor those of a character that exists. -/
def escapedCharacter? (text : List Char) : Option TagBytes := do
  let first ← octet? text
  let width ← characterWidth? first
  return first :: (← continuation? (width - 1) (text.drop 3))

/-- A resource name, with escaped octets resolved. -/
def resource? (full : Bool) : Nat → Cursor → TagBytes → Option (TagBytes × Cursor)
  | 0, c, name => some (name, c)
  | fuel + 1, c, name =>
    if c.sees 0 '%' then do
      let octets ← escapedCharacter? c.rest
      resource? full fuel (c.skip (3 * octets.length)) (name ++ octets)
    else if (c.peek? 0).any (isResourceChar full) then
      resource? full fuel (c.skip 1) (name ++ .ofText (c.rest.take 1))
    else some (name, c)

/-- A resource name ends before an octet of zero, whatever follows it. -/
def beforeZero (name : TagBytes) : TagBytes := name.takeWhile (· != 0)

/-- A handle: an exclamation mark, perhaps with a name and a second one behind it. -/
def handle? (c : Cursor) : Option (List Char × Cursor) := do
  guard (c.sees 0 '!')
  let name := (c.skip 1).rest.takeWhile isNameChar
  let after := c.skip (1 + name.length)
  if after.sees 0 '!' then some ('!' :: name ++ ['!'], after.skip 1) else some ('!' :: name, after)

/-- A tag. It is given in full between angles, or as a suffix behind a handle; an exclamation mark
alone is a tag in full. -/
def tag? (flow : Bool) (c : Cursor) : Option (Token × Cursor) := do
  let fuel := c.rest.length
  let (token, after) ←
    if c.sees 1 '<' then do
      let (name, after) ← resource? true fuel (c.skip 2) []
      guard (!name.isEmpty && after.sees 0 '>')
      some (Token.tag "" (beforeZero name), after.skip 1)
    else do
      let (handle, after) ← handle? c
      if 1 < handle.length && handle.getLast? == some '!' then
        let (suffix, after) ← resource? false fuel after []
        guard (!suffix.isEmpty)
        some (Token.tag (String.ofList handle) (beforeZero suffix), after)
      else
        let (suffix, after) ← resource? false fuel after (.ofText (handle.drop 1))
        let suffix := beforeZero suffix
        if suffix.isEmpty then some (Token.tag "" (.ofText ['!']), after)
        else some (Token.tag "!" suffix, after)
  guard (after.spaceAt 0 || (flow && after.sees 0 ','))
  some (token, after)

/-- A number of a version, of at most nine digits. -/
def versionNumber? (c : Cursor) : Option (Nat × Cursor) := do
  let digits := c.rest.takeWhile Char.isDigit
  guard (digits.length ≤ 9)
  let n ← Text.natOfDigits? 10 1000000000 digits
  some (n, c.skip digits.length)

/-- What stands behind the name of a directive. -/
def directiveValue? (name : String) (c : Cursor) : Option (Token × Cursor) := do
  let c := c.skipWhile isBlank
  match name with
  | "YAML" =>
    let (major, c) ← versionNumber? c
    guard (c.sees 0 '.')
    let (minor, c) ← versionNumber? (c.skip 1)
    some (.versionDirective major minor, c)
  | "TAG" =>
    let (handle, c) ← handle? c
    guard (handle.length = 1 || handle.getLast? == some '!')
    guard c.atBlank
    let (stem, c) ← resource? true c.rest.length (c.skipWhile isBlank) []
    guard (!stem.isEmpty && c.spaceAt 0)
    some (.tagDirective (String.ofList handle) (beforeZero stem), c)
  | _ => none

/-- A directive, up to the end of its line. -/
def directive? (c : Cursor) : Option (Token × Cursor) := do
  let name := (c.skip 1).rest.takeWhile isNameChar
  let after := c.skip (1 + name.length)
  guard (after.spaceAt 0)
  let (token, after) ← directiveValue? (String.ofList name) after
  let after := after.skipBlanksAndComment
  guard after.atLineEnd
  some (token, if after.atBreak then after.skipBreak else after)

end Jtag.Yaml
