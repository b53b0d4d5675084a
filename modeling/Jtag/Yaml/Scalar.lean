import Jtag.Text.Number
import Jtag.Yaml.Cursor

/-!
The text of scalars. Plain and quoted ones may run over several lines, whose breaks are folded: one
break becomes a space, more of them lose the first. Block scalars keep or fold the lines of an
indented block.
-/

namespace Jtag.Yaml

/-- Blanks and line breaks between two words of a scalar. -/
structure Gap where
  /-- Blanks before the first line break. -/
  blanks : List Char
  /-- The first line break. -/
  first : List Char
  /-- Further line breaks. -/
  more : List Char
  /-- There was a line break. -/
  broken : Bool

namespace Gap

def empty : Gap := ⟨[], [], [], false⟩

/-- A gap behind a line break that was escaped. -/
def escaped : Gap := ⟨[], [], [], true⟩

/-- What a gap stands for. -/
def text (g : Gap) : List Char :=
  if g.broken then
    if g.first = ['\n'] then (if g.more.isEmpty then [' '] else g.more) else g.first ++ g.more
  else g.blanks

/-- Read on through a gap. A tab at the start of a line fails where it stands for indentation: left
of column `level`. -/
def read? (level : Nat) : Nat → Gap → Cursor → Option (Gap × Cursor)
  | 0, g, c => some (g, c)
  | fuel + 1, g, c =>
    if c.atBlank then
      if g.broken then
        if c.sees 0 '\t' && c.column < level then none else read? level fuel g (c.skip 1)
      else read? level fuel { g with blanks := g.blanks ++ c.rest.take 1 } (c.skip 1)
    else if c.atBreak then
      let line := c.breakText
      if g.broken then read? level fuel { g with more := g.more ++ line } c.skipBreak
      else read? level fuel ⟨[], line, g.more, true⟩ c.skipBreak
    else some (g, c)

end Gap

/-! ### Plain scalars -/

/-- A colon in a flow collection before one of these cannot be part of a plain scalar. -/
def isFlowIndicator (c : Char) : Bool := [',', '?', '[', ']', '{', '}'].contains c

/-- The characters that end a plain scalar within a flow collection. -/
def endsFlowScalar (c : Char) : Bool := [',', '[', ']', '{', '}'].contains c

/-- The word of a plain scalar at the cursor, up to a blank, an indicator or the end. -/
def plainWord? (flow : Bool) : Nat → Cursor → List Char → Option (List Char × Cursor)
  | 0, c, word => some (word, c)
  | fuel + 1, c, word =>
    if c.spaceAt 0 then some (word, c)
    else if flow && c.sees 0 ':' && (c.peek? 1).any isFlowIndicator then none
    else if c.sees 0 ':' && c.spaceAt 1 then some (word, c)
    else if flow && (c.peek? 0).any endsFlowScalar then some (word, c)
    else plainWord? flow fuel (c.skip 1) (word ++ c.rest.take 1)

/-- Words of a plain scalar. The answer tells whether a line break follows the last one. -/
def plainWords? (flow : Bool) (level : Nat) :
    Nat → Cursor → List Char → Gap → Option (List Char × Cursor × Bool)
  | 0, c, text, gap => some (text, c, gap.broken)
  | fuel + 1, c, text, gap =>
    if c.atDocumentMarker || c.sees 0 '#' then some (text, c, gap.broken)
    else do
      let (word, after) ← plainWord? flow c.rest.length c []
      let (text, gap) := if word.isEmpty then (text, gap) else (text ++ gap.text ++ word, Gap.empty)
      if after.atBlank || after.atBreak then
        let (gap, next) ← Gap.read? level after.rest.length gap after
        if !flow && next.column < level then some (text, next, gap.broken)
        else plainWords? flow level fuel next text gap
      else some (text, after, gap.broken)

/-- A plain scalar, which lies at column `level` or right of it outside of flow collections. -/
def plainScalar? (flow : Bool) (level : Nat) (c : Cursor) : Option (List Char × Cursor × Bool) :=
  plainWords? flow level (c.rest.length + 1) c [] .empty

/-! ### Quoted scalars -/

/-- The number of hexadecimal digits an escape takes. -/
def escapeWidth? : Char → Option Nat
  | 'x' => some 2
  | 'u' => some 4
  | 'U' => some 8
  | _ => none

/-- Escapes that stand for one character. -/
def simpleEscape? : Char → Option Char
  | '0' => some '\x00'
  | 'a' => some '\x07'
  | 'b' => some '\x08'
  | 't' => some '\t'
  | '\t' => some '\t'
  | 'n' => some '\n'
  | 'v' => some '\x0b'
  | 'f' => some '\x0c'
  | 'r' => some '\r'
  | 'e' => some '\x1b'
  | ' ' => some ' '
  | '"' => some '"'
  | '/' => some '/'
  | '\\' => some '\\'
  | 'N' => some (Char.ofNat 0x85)
  | '_' => some (Char.ofNat 0xa0)
  | 'L' => some (Char.ofNat 0x2028)
  | 'P' => some (Char.ofNat 0x2029)
  | _ => none

/-- The character of an escape behind its backslash. -/
def escape? (c : Cursor) : Option (Char × Cursor) := do
  let x ← c.peek? 0
  match simpleEscape? x with
  | some y => some (y, c.skip 1)
  | none =>
    let width ← escapeWidth? x
    let digits := (c.skip 1).rest.take width
    guard (digits.length = width)
    let n ← Text.natOfDigits? 16 0x110000 digits
    guard (n < 0xd800 || 0xe000 ≤ n)
    some (Char.ofNat n, c.skip (width + 1))

/-- The characters of a quoted scalar up to a blank, a line break or the closing quote. An escaped
line break ends them too, which the answer tells. -/
def quotedWord? (single : Bool) :
    Nat → Cursor → List Char → Option (List Char × Cursor × Bool)
  | 0, c, word => some (word, c, false)
  | fuel + 1, c, word =>
    if c.spaceAt 0 then some (word, c, false)
    else if single then
      if c.sees 0 '\'' then
        if c.sees 1 '\'' then quotedWord? single fuel (c.skip 2) (word ++ ['\''])
        else some (word, c, false)
      else quotedWord? single fuel (c.skip 1) (word ++ c.rest.take 1)
    else if c.sees 0 '"' then some (word, c, false)
    else if c.sees 0 '\\' then
      if (c.peek? 1).any isBreak then some (word, (c.skip 1).skipBreak, true)
      else do
        let (x, after) ← escape? (c.skip 1)
        quotedWord? single fuel after (word ++ [x])
    else quotedWord? single fuel (c.skip 1) (word ++ c.rest.take 1)

/-- The text of a quoted scalar behind its opening quote, and the position behind its closing one. -/
def quotedText? (single : Bool) : Nat → Cursor → List Char → Option (List Char × Cursor)
  | 0, _, _ => none
  | fuel + 1, c, text =>
    if c.atDocumentMarker || c.atEnd then none
    else do
      let (word, after, escaped) ← quotedWord? single c.rest.length c []
      let text := text ++ word
      if !escaped && after.sees 0 (if single then '\'' else '"') then some (text, after.skip 1)
      else
        let (gap, next) ←
          Gap.read? 0 after.rest.length (if escaped then .escaped else .empty) after
        quotedText? single fuel next (text ++ gap.text)

def quotedScalar? (single : Bool) (c : Cursor) : Option (List Char × Cursor) :=
  quotedText? single (c.rest.length + 1) (c.skip 1) []

/-! ### Block scalars -/

/-- What happens to the line breaks at the end of a block scalar. -/
inductive Chomping where
  | strip
  | clip
  | keep
deriving DecidableEq, Repr

/-- The indicators behind the bar or the angle of a block scalar, in either order. -/
def chomping? (c : Cursor) : Option Chomping :=
  if c.sees 0 '+' then some .keep else if c.sees 0 '-' then some .strip else none

/-- An explicit indentation, which is not zero. -/
def increment? (c : Cursor) : Option (Option Nat) :=
  match c.peek? 0 with
  | some x => if x == '0' then none else some (Text.digitValue? 10 x)
  | none => some none

/-- The header of a block scalar: the chomping, the indentation, and the position behind them. -/
def blockHeader? (c : Cursor) : Option (Chomping × Option Nat × Cursor) :=
  match chomping? c with
  | some chomping => do
    let c := c.skip 1
    let increment ← increment? c
    some (chomping, increment, c.skip (if increment.isSome then 1 else 0))
  | none => do
    match ← increment? c with
    | none => some (.clip, none, c)
    | some n =>
      let c := c.skip 1
      match chomping? c with
      | some chomping => some (chomping, some n, c.skip 1)
      | none => some (.clip, some n, c)

/-- Step over indentation and empty lines, collecting the line breaks. While the indentation is not
known, the deepest one is remembered. A tab in place of an indentation fails. -/
def blockBreaks? (indent : Nat) :
    Nat → Cursor → List Char → Nat → Option (List Char × Cursor × Nat)
  | 0, c, breaks, deepest => some (breaks, c, deepest)
  | fuel + 1, c, breaks, deepest =>
    let spaces := (c.rest.takeWhile (· == ' ')).length
    let c := c.skip (if indent = 0 then spaces else min spaces (indent - c.column))
    let deepest := max deepest c.column
    if (indent = 0 || c.column < indent) && c.sees 0 '\t' then none
    else if c.atBreak then
      blockBreaks? indent fuel c.skipBreak (breaks ++ c.breakText) deepest
    else some (breaks, c, deepest)

/-- The lines of a block scalar. `first` is the break of the line before, `more` are the breaks of
the empty lines behind it, and `blank` tells whether the line before started with a blank. -/
def blockLines? (literal : Bool) (indent : Nat) :
    Nat → Cursor → List Char → List Char → List Char → Bool →
      Option (List Char × List Char × List Char × Cursor)
  | 0, c, text, first, more, _ => some (text, first, more, c)
  | fuel + 1, c, text, first, more, blank =>
    if c.column = indent && !c.atEnd then
      let starts := c.atBlank
      let text :=
        if !literal && first == ['\n'] && !blank && !starts then
          text ++ (if more.isEmpty then [' '] else []) ++ more
        else text ++ first ++ more
      let line := c.rest.takeWhile fun x => !isBreak x
      let c := c.skip line.length
      let (first, c) := if c.atBreak then (c.breakText, c.skipBreak) else ([], c)
      match blockBreaks? indent (c.rest.length + 1) c [] 0 with
      | none => none
      | some (more, c, _) => blockLines? literal indent fuel c (text ++ line) first more starts
    else some (text, first, more, c)

/-- A block scalar within a block of the given level. -/
def blockScalar? (literal : Bool) (level : Nat) (c : Cursor) : Option (List Char × Cursor) := do
  let (chomping, increment, c) ← blockHeader? (c.skip 1)
  let c := c.skipBlanksAndComment
  guard c.atLineEnd
  let c := if c.atBreak then c.skipBreak else c
  let indent := match increment with
    | some n => if level = 0 then n else level - 1 + n
    | none => 0
  let (more, c, deepest) ← blockBreaks? indent (c.rest.length + 1) c [] 0
  let indent := if indent = 0 then max deepest (max level 1) else indent
  let (text, first, more, c) ← blockLines? literal indent (c.rest.length + 1) c [] [] more false
  let tail := match chomping with
    | .strip => []
    | .clip => first
    | .keep => first ++ more
  some (text ++ tail, c)

end Jtag.Yaml
