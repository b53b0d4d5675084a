import Jtag.Yaml.Cursor
import Jtag.Yaml.Token

/-!
Blocks and keys. A block ends where a line is indented less, and a key is only recognised by the
colon behind it: the place where a key may have started is remembered as a candidate, one for each
open flow collection, and the key token is put there later.
-/

namespace Jtag.Yaml

/-- A place where a key may have started. -/
structure Candidate where
  /-- The number of tokens before it. -/
  position : Nat
  line : Nat
  column : Nat
  index : Nat
  /-- Nothing but a key can stand there. -/
  required : Bool

/-- The tokens of a document up to some position. -/
structure Layout where
  cursor : Cursor
  tokens : Array Token
  /-- One more than the column of the innermost block, zero outside of all blocks. -/
  level : Nat
  /-- The levels of the enclosing blocks, innermost first. -/
  outer : List Nat
  /-- The candidate within the innermost open flow collection, or outside of all. -/
  candidate? : Option Candidate
  /-- The candidates around each open flow collection, innermost first. -/
  suspended : List (Option Candidate)
  /-- A key may start here. -/
  keyAllowed : Bool

namespace Layout

def start (text : List Char) : Layout := ⟨Cursor.start text, #[], 0, [], none, [], true⟩

/-- The position is within a flow collection. -/
def inFlow (s : Layout) : Bool := !s.suspended.isEmpty

def push (s : Layout) (token : Token) : Layout := { s with tokens := s.tokens.push token }

/-- Put a token before the one at a position. -/
def insert (s : Layout) (position : Nat) (token : Token) : Layout :=
  let before := s.tokens.extract 0 position
  { s with tokens := before.push token ++ s.tokens.extract position s.tokens.size }

/-- Step over `n` characters, which are a token. -/
def take (s : Layout) (n : Nat) (token : Token) : Layout :=
  { s with cursor := s.cursor.skip n, tokens := s.tokens.push token }

/-- Whether a key may start behind this position. -/
def allowKey (s : Layout) (allowed : Bool) : Layout := { s with keyAllowed := allowed }

/-- Step over spaces, comments and line breaks. Tabs count as spaces where no key may start, and a
byte order mark is passed over at the start of a line. -/
def skipSpace : Nat → Layout → Layout
  | 0, s => s
  | fuel + 1, s =>
    let c := s.cursor
    let c := if c.column = 0 && (c.peek? 0).any isByteOrderMark then c.skip 1 else c
    let tabs := s.inFlow || !s.keyAllowed
    let c := c.skipWhile fun x => x == ' ' || (tabs && x == '\t')
    let c := if c.sees 0 '#' then c.skipWhile (fun x => !isBreak x) else c
    if c.atBreak then
      skipSpace fuel { s with cursor := c.skipBreak, keyAllowed := s.keyAllowed || !s.inFlow }
    else { s with cursor := c }

/-! ### Keys -/

/-- A candidate is out of reach on the next line or after 1024 bytes. -/
def isStale (s : Layout) (k : Candidate) : Bool :=
  k.line < s.cursor.line || k.index + 1024 < s.cursor.index

/-- A candidate that is out of reach is given up, which fails if it had to be a key. -/
def refresh? (s : Layout) : Option Candidate → Option (Option Candidate)
  | none => some none
  | some k => if s.isStale k then (if k.required then none else some none) else some (some k)

/-- Give up all candidates that are out of reach. -/
def dropStale? (s : Layout) : Option Layout := do
  let candidate? ← s.refresh? s.candidate?
  let suspended ← s.suspended.mapM s.refresh?
  some { s with candidate?, suspended }

/-- Give up the current candidate, which fails if it had to be a key. -/
def dropCandidate? (s : Layout) : Option Layout :=
  if s.candidate?.any (·.required) then none else some { s with candidate? := none }

/-- A key may start here. -/
def saveCandidate? (s : Layout) : Option Layout :=
  if s.keyAllowed then do
    let s ← s.dropCandidate?
    let c := s.cursor
    let required := !s.inFlow && s.level = c.column + 1
    some { s with candidate? := some ⟨s.tokens.size, c.line, c.column, c.index, required⟩ }
  else some s

/-! ### Blocks -/

/-- Open a block at a column, if it is right of the innermost one. Its first token stands before the
one at the given position. -/
def openBlock (s : Layout) (column position : Nat) (token : Token) : Layout :=
  if !s.inFlow && s.level < column + 1 then
    { s.insert position token with level := column + 1, outer := s.level :: s.outer }
  else s

/-- Close the blocks above a level. -/
def closeTo (s : Layout) (level : Nat) : Layout :=
  if s.inFlow then s
  else
    let rec close (current : Nat) (tokens : Array Token) : List Nat → Layout
      | [] => { s with level := current, outer := [], tokens }
      | below :: outer =>
        if level < current then close below (tokens.push .blockEnd) outer
        else { s with level := current, outer := below :: outer, tokens }
    close s.level s.tokens s.outer

end Layout
end Jtag.Yaml
