import Jtag.Yaml.Layout
import Jtag.Yaml.Scalar
import Jtag.Yaml.Tag

/-!
The tokens of a text. A text that is not made of tokens has none.
-/

namespace Jtag.Yaml
namespace Layout

/-- A token that ends all blocks: a directive or the mark of a start or end of a document. -/
def outermost? (s : Layout) : Option Layout := do
  let s ← (s.closeTo 0).dropCandidate?
  some (s.allowKey false)

/-- The mark of a start or end of a document. -/
def marker? (s : Layout) (token : Token) : Option Layout := do
  let s ← s.outermost?
  some (s.take 3 token)

/-- The opening bracket of a flow collection. -/
def openFlow? (s : Layout) (token : Token) : Option Layout := do
  let s ← s.saveCandidate?
  let s := { s with suspended := s.candidate? :: s.suspended, candidate? := none }
  some ((s.allowKey true).take 1 token)

/-- The closing bracket of a flow collection, or one that closes nothing. -/
def closeFlow? (s : Layout) (token : Token) : Option Layout := do
  let s ← s.dropCandidate?
  let s := match s.suspended with
    | [] => s
    | candidate? :: suspended => { s with candidate?, suspended }
  some ((s.allowKey false).take 1 token)

/-- The comma between the entries of a flow collection. -/
def flowEntry? (s : Layout) : Option Layout := do
  let s ← s.dropCandidate?
  some ((s.allowKey true).take 1 .flowEntry)

/-- A block opens at the cursor for an indicator that only stands where a key could. -/
def indicator? (s : Layout) (opening : Token) : Option Layout :=
  if s.inFlow then some s
  else if s.keyAllowed then some (s.openBlock s.cursor.column s.tokens.size opening)
  else none

/-- The hyphen of a block sequence. -/
def blockEntry? (s : Layout) : Option Layout := do
  let s ← s.indicator? .blockSequenceStart
  let s ← s.dropCandidate?
  some ((s.allowKey true).take 1 .blockEntry)

/-- The question mark before a key. -/
def keyMark? (s : Layout) : Option Layout := do
  let s ← s.indicator? .blockMappingStart
  let s ← s.dropCandidate?
  some ((s.allowKey (!s.inFlow)).take 1 .key)

/-- The colon before a value. It turns the current candidate into a key. -/
def valueMark? (s : Layout) : Option Layout :=
  match s.candidate? with
  | some k =>
    let s := (s.insert k.position .key).openBlock k.column k.position .blockMappingStart
    some (({ s with candidate? := none }.allowKey false).take 1 .value)
  | none => do
    let s ← s.indicator? .blockMappingStart
    some ((s.allowKey (!s.inFlow)).take 1 .value)

/-- A token with which a key can start. -/
def content? (s : Layout) (read? : Cursor → Option (Token × Cursor)) : Option Layout := do
  let s ← s.saveCandidate?
  let (token, cursor) ← read? s.cursor
  some { s with cursor, tokens := s.tokens.push token, keyAllowed := false }

/-- An alias or an anchor. -/
def reference? (s : Layout) (make : String → Token) : Option Layout :=
  s.content? fun c => do
    let (name, c) ← anchorName? (c.skip 1)
    some (make name, c)

def quoted? (s : Layout) (single : Bool) : Option Layout :=
  s.content? fun c => do
    let (text, c) ← quotedScalar? single c
    some (.scalar (String.ofList text) (if single then .singleQuoted else .doubleQuoted), c)

/-- A plain scalar. A key may start behind it, if it ended with its line. -/
def plain? (s : Layout) : Option Layout := do
  let s ← s.saveCandidate?
  let (text, cursor, broken) ← plainScalar? s.inFlow s.level s.cursor
  let tokens := s.tokens.push (.scalar (String.ofList text) .plain)
  some { s with cursor, tokens, keyAllowed := broken }

def block? (s : Layout) (literal : Bool) : Option Layout := do
  let s ← s.dropCandidate?
  let (text, cursor) ← blockScalar? literal s.level s.cursor
  let token := Token.scalar (String.ofList text) (if literal then .literal else .folded)
  some { s with cursor, tokens := s.tokens.push token, keyAllowed := true }

/-- The characters that have a meaning at the start of a token. -/
def isIndicator (c : Char) : Bool :=
  ['-', '?', ':', ',', '[', ']', '{', '}', '#', '&', '*', '!', '|', '>', '\'', '"', '%', '@',
    Char.ofNat 0x60].contains c

/-- A plain scalar starts at the cursor. A blank is left there only where a key may start, which is
no place for a tab. -/
def startsPlain (s : Layout) (x : Char) : Bool :=
  (!isIndicator x && !isBlank x)
    || (x == '-' && !(s.cursor.peek? 1).any isBlank)
    || (!s.inFlow && (x == '?' || x == ':') && !s.cursor.spaceAt 1)

/-- The token that starts with a character at the cursor. -/
def tokenAt? (s : Layout) (x : Char) : Option Layout :=
  let c := s.cursor
  if c.column = 0 && x == '%' then do
    let s ← s.outermost?
    let (token, cursor) ← directive? c
    some { s with cursor, tokens := s.tokens.push token }
  else if c.atMarker '-' then s.marker? .documentStart
  else if c.atMarker '.' then s.marker? .documentEnd
  else if x == '[' then s.openFlow? .flowSequenceStart
  else if x == '{' then s.openFlow? .flowMappingStart
  else if x == ']' then s.closeFlow? .flowSequenceEnd
  else if x == '}' then s.closeFlow? .flowMappingEnd
  else if x == ',' then s.flowEntry?
  else if x == '-' && c.spaceAt 1 then s.blockEntry?
  else if x == '?' && (s.inFlow || c.spaceAt 1) then s.keyMark?
  else if x == ':' && (s.inFlow || c.spaceAt 1) then s.valueMark?
  else if x == '*' then s.reference? .alias
  else if x == '&' then s.reference? .anchor
  else if x == '!' then s.content? (tag? s.inFlow)
  else if x == '|' && !s.inFlow then s.block? true
  else if x == '>' && !s.inFlow then s.block? false
  else if x == '\'' then s.quoted? true
  else if x == '"' then s.quoted? false
  else if s.startsPlain x then s.plain?
  else none

/-- All tokens from here to the end. Every token but those at the end takes a character. -/
def tokens? : Nat → Layout → Option (List Token)
  | 0, _ => none
  | fuel + 1, s => do
    let s ← (s.skipSpace (s.cursor.rest.length + 1)).dropStale?
    match s.cursor.peek? 0 with
    | none =>
      let s ← s.outermost?
      some s.tokens.toList
    | some x => tokens? fuel (← (s.closeTo (s.cursor.column + 1)).tokenAt? x)

end Layout

def tokens? (text : List Char) : Option (List Token) :=
  if text.all isAllowed then (Layout.start text).tokens? (text.length + 1) else none

end Jtag.Yaml
