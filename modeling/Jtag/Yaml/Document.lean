import Jtag.Yaml.Node
import Jtag.Yaml.Tokens

/-!
Documents as they are read from tokens. A text holds one document; one without any tokens is a
document with nothing in it.
-/

namespace Jtag.Yaml

/-- The tokens that are left, and the names seen so far. -/
structure Reading where
  tokens : List Token
  /-- What the handles of tags stand for. -/
  handles : List (String × TagBytes)
  /-- The numbers of the anchors, the latest meaning of each name only. -/
  anchors : List (String × Nat)
  anchored : List (Nat × Node)

/-- A step of reading a document, which may fail. -/
abbrev Read (α : Type) := StateT Reading Option α

/-- Where a node stands. -/
inductive Place where
  | flow
  | block
  /-- A key or value of a block mapping, where a sequence need not be indented. -/
  | entry
deriving DecidableEq, Repr

namespace Read

def peek? : Read (Option Token) := do return (← get).tokens.head?

/-- Step over a token. -/
def skip : Read Unit := modify fun s => { s with tokens := s.tokens.drop 1 }

/-- The next token is one of these. -/
def sees (tokens : List Token) : Read Bool := do return (← peek?).any (tokens.contains ·)

/-- Step over a token that has to be there. -/
def expect (token : Token) : Read Unit := do
  guard (← sees [token])
  skip

/-- Step over a token if it is there. -/
def accept (token : Token) : Read Bool := do
  let seen ← sees [token]
  if seen then skip
  return seen

/-- The number of an anchor that was given before. -/
def anchorOf (name : String) : Read Nat := do
  match (← get).anchors.lookup name with
  | some anchor => return anchor
  | none => failure

/-- Give an anchor to a node that starts here. It gets the number of names known so far, whether
or not it had one before. -/
def anchor (name : String) : Read Unit := modify fun s =>
  let number := s.anchors.length
  { s with
    anchors := (name, number) :: s.anchors.filter (·.1 != name)
    anchored := s.anchored ++ [(number, .empty)] }

/-- The anchor and the tag in front of a node, in either order, and the tag in full. -/
def properties : Read (Option String × Option TagBytes) := do
  let name? ← anchorMark
  let tag? ← tagMark
  let name? ← if name?.isNone && tag?.isSome then anchorMark else pure name?
  return (name?, tag?)
where
  anchorMark : Read (Option String) := do
    match ← peek? with
    | some (.anchor name) =>
      skip
      return some name
    | _ => return none
  tagMark : Read (Option TagBytes) := do
    match ← peek? with
    | some (.tag handle suffix) =>
      skip
      if handle.isEmpty then return some suffix
      else
        match (← get).handles.lookup handle with
        | some stem => return some (stem ++ suffix)
        | none => failure
    | _ => return none

mutual

def node : Nat → Place → Read Node
  | 0, _ => failure
  | fuel + 1, place => do
    match ← peek? with
    | some (.alias name) =>
      skip
      return .alias (← anchorOf name)
    | _ =>
      let (name?, tag?) ← properties
      let position := (← get).anchored.length
      if let some name := name? then anchor name
      let n ← content fuel place tag? (name?.isSome || tag?.isSome)
      if name?.isSome then
        modify fun s => { s with anchored := s.anchored.modify position fun (a, _) => (a, n) }
      return n

/-- A node behind its anchor and tag. If it has one of them, it may be empty. -/
def content : Nat → Place → Option TagBytes → Bool → Read Node
  | 0, _, _, _ => failure
  | fuel + 1, place, tag?, marked => do
    match ← peek? with
    | some (.scalar text style) =>
      skip
      return .scalar tag? text style
    | some .flowSequenceStart =>
      skip
      return .sequence tag? (← flowItems fuel true)
    | some .flowMappingStart =>
      skip
      return .mapping tag? (← flowEntries fuel true)
    | some token =>
      if token = .blockEntry ∧ place = .entry then return .sequence tag? (← looseItems fuel)
      else if token = .blockSequenceStart ∧ place ≠ .flow then
        skip
        return .sequence tag? (← blockItems fuel)
      else if token = .blockMappingStart ∧ place ≠ .flow then
        skip
        return .mapping tag? (← blockEntries fuel)
      else if marked then return .scalar tag? "" .plain
      else failure
    | none => if marked then return .scalar tag? "" .plain else failure

/-- A node, or nothing before one of some tokens. -/
def nodeUnless : Nat → Place → List Token → Read Node
  | 0, _, _ => failure
  | fuel + 1, place, ends => do
    if ← sees ends then return .empty else node fuel place

def blockItems : Nat → Read (List Node)
  | 0 => failure
  | fuel + 1 => do
    if ← accept .blockEntry then
      let item ← nodeUnless fuel .block [.blockEntry, .blockEnd]
      return item :: (← blockItems fuel)
    else
      expect .blockEnd
      return []

/-- The items of a sequence that is not indented more than the key it belongs to. -/
def looseItems : Nat → Read (List Node)
  | 0 => failure
  | fuel + 1 => do
    if ← accept .blockEntry then
      let item ← nodeUnless fuel .block [.blockEntry, .key, .value, .blockEnd]
      return item :: (← looseItems fuel)
    else return []

def blockEntries : Nat → Read (List (Node × Node))
  | 0 => failure
  | fuel + 1 => do
    if ← accept .key then
      let key ← nodeUnless fuel .entry [.key, .value, .blockEnd]
      let value ← valueUnless fuel .entry [.key, .value, .blockEnd]
      return (key, value) :: (← blockEntries fuel)
    else
      expect .blockEnd
      return []

/-- The value behind a key, empty without a mark. -/
def valueUnless : Nat → Place → List Token → Read Node
  | 0, _, _ => failure
  | fuel + 1, place, ends => do
    if ← accept .value then nodeUnless fuel place ends else return .empty

/-- The items of a flow sequence. A key makes its item a mapping of one entry; where that key is
empty, the token in its place is passed over. -/
def flowItems : Nat → Bool → Read (List Node)
  | 0, _ => failure
  | fuel + 1, first => do
    if ← accept .flowSequenceEnd then return []
    unless first do expect .flowEntry
    if ← accept .flowSequenceEnd then return []
    if ← accept .key then
      let ends := [Token.flowEntry, .flowSequenceEnd]
      let bare ← sees (.value :: ends)
      if bare then skip
      let key ← if bare then pure .empty else node fuel .flow
      let value ← valueUnless fuel .flow ends
      return .mapping none [(key, value)] :: (← flowItems fuel false)
    else
      let item ← node fuel .flow
      return item :: (← flowItems fuel false)

def flowEntries : Nat → Bool → Read (List (Node × Node))
  | 0, _ => failure
  | fuel + 1, first => do
    if ← accept .flowMappingEnd then return []
    unless first do expect .flowEntry
    if ← accept .flowMappingEnd then return []
    let ends := [Token.flowEntry, .flowMappingEnd]
    if ← accept .key then
      let key ← nodeUnless fuel .flow (.value :: ends)
      let value ← valueUnless fuel .flow ends
      return (key, value) :: (← flowEntries fuel false)
    else
      let key ← node fuel .flow
      return (key, .empty) :: (← flowEntries fuel false)

end

/-- The directives before a document. Versions 1.1 and 1.2 are known, and nothing is said twice. -/
def directives : Nat → Bool → Read Unit
  | 0, _ => failure
  | fuel + 1, versioned => do
    match ← peek? with
    | some (.versionDirective major minor) =>
      guard (!versioned && major = 1 && (minor = 1 || minor = 2))
      skip
      directives fuel true
    | some (.tagDirective handle stem) =>
      guard ((← get).handles.lookup handle).isNone
      skip
      modify fun s => { s with handles := (handle, stem) :: s.handles }
      directives fuel versioned
    | _ => return ()

/-- The handles that have a meaning without a directive. -/
def commonHandles : List (String × TagBytes) :=
  [("!", .ofText ['!']), ("!!", .ofText "tag:yaml.org,2002:".toList)]

/-- The root of the only document. -/
def root (fuel : Nat) : Read Node := do
  match ← peek? with
  | none => return .empty
  | some first =>
    let explicit := match first with
      | .versionDirective .. | .tagDirective .. | .documentStart => true
      | _ => false
    if explicit then
      directives fuel false
      expect .documentStart
    modify fun s => { s with handles := s.handles ++ commonHandles }
    let ended ← match ← peek? with
      | none | some (.versionDirective ..) | some (.tagDirective ..) => pure true
      | some token => pure (token = .documentStart || token = .documentEnd)
    let root ← if explicit && ended then pure .empty else node fuel .block
    modify fun s => { s with tokens := s.tokens.dropWhile (· = .documentEnd) }
    guard (← peek?).isNone
    return root

end Read

namespace Document

def ofText? (text : List Char) : Option Document := do
  let tokens ← tokens? text
  let (root, s) ← (Read.root (4 * tokens.length + 16)).run ⟨tokens, [], [], []⟩
  some ⟨root, s.anchored⟩

def ofBytes? (bytes : List UInt8) : Option Document := do
  let text ← String.fromUTF8? ⟨bytes.toArray⟩
  ofText? text.toList

end Document
end Jtag.Yaml
