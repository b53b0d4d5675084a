import Jtag.Text.Number
import Jtag.Yaml.Document

/-!
Values read from a document. What a value may look like depends on what is asked for: any scalar is
a string, but only an unquoted one is a number or a truth value, and nothing at all is also an
absent value, an empty list and a structure without fields.
-/

namespace Jtag.Yaml

/-- Reading values, which may fail. The state is the number of aliases that may still be followed. -/
abbrev Decoding (α : Type) := StateT Nat Option α

/-- A way to read a value from a node of a document. -/
abbrev Decoder (α : Type) := Document → Node → Decoding α

/-- The fields of a structure as they are written. -/
abbrev Fields := List (String × Node)

namespace Decoder

/-- The tag of a type of scalars. -/
def coreTag (name : String) : TagBytes := .ofText ("tag:yaml.org,2002:" ++ name).toList

/-- The spellings of an absent value. -/
def isNull (text : String) : Bool := ["null", "Null", "NULL", "~"].contains text

/-- The node that an alias stands for. Other nodes stand for themselves. -/
def resolve (d : Document) : Node → Decoding Node
  | .alias anchor => do
    let left ← get
    guard (left ≠ 0)
    set (left - 1)
    d.anchoredNode? anchor
  | node => pure node

/-- The text of any scalar. -/
def string : Decoder String := fun d n => do
  match ← resolve d n with
  | .scalar _ text _ => return text
  | _ => failure

/-- The text of a scalar that stands for a value of another type than string: one that is not
quoted, or a literal block with the tag of the type. -/
def unquoted (type : String) : Decoder String := fun d n => do
  match ← resolve d n with
  | .scalar _ text .plain => return text
  | .scalar tag? text .literal =>
    guard (tag? = some (coreTag type))
    return text
  | _ => failure

/-- Digits of a number below 2^64, in the base that the first two characters name. A decimal number
has no zero in front. -/
def natOfText? (text : List Char) : Option Nat :=
  let bound := UInt64.size
  match text with
  | '0' :: 'x' :: digits => Text.natOfDigits? 16 bound digits
  | '0' :: 'o' :: digits => Text.natOfDigits? 8 bound digits
  | '0' :: 'b' :: digits => Text.natOfDigits? 2 bound digits
  | ['0'] => some 0
  | '0' :: _ => none
  | digits => Text.natOfDigits? 10 bound digits

/-- A number below 2^64, perhaps with a plus sign. -/
def natural : Decoder Nat := fun d n => do
  match (← unquoted "int" d n).toList with
  | '+' :: text => natOfText? text
  | text => natOfText? text

/-- A truth value. -/
def bool : Decoder Bool := fun d n => do
  let text ← unquoted "bool" d n
  if ["true", "True", "TRUE"].contains text then return true
  else if ["false", "False", "FALSE"].contains text then return false
  else failure

/-- Whether a node stands for an absent value: an unquoted scalar that is empty or says so. If it has
the tag of absent values, it fails unless it says so, and with another tag it is a value. -/
def isAbsent? : Node → Option Bool
  | .scalar none text .plain => some (text.isEmpty || isNull text)
  | .scalar (some tag) text .plain =>
    if tag = coreTag "null" then (if isNull text then some true else none) else some false
  | _ => some false

/-- A value that may be absent. -/
def optional {α : Type} (decode : Decoder α) : Decoder (Option α) := fun d n => do
  let n ← resolve d n
  if ← isAbsent? n then return none
  return some (← decode d n)

def list {α : Type} (decode : Decoder α) : Decoder (List α) := fun d n => do
  match ← resolve d n with
  | .sequence _ items => items.mapM (decode d)
  | .scalar _ text .plain =>
    guard text.isEmpty
    return []
  | _ => failure

/-- The name that a tag of one's own gives to a variant, if it is text. -/
def variantTag? (tag : TagBytes) : Option String := do
  let mark := TagBytes.ofText ['!']
  guard (mark.isPrefixOf tag)
  let name := if tag = mark then tag else tag.drop mark.length
  String.fromUTF8? ⟨name.toArray⟩

/-- One of several named values, which the text names, or the tag of an empty scalar. -/
def variant {α : Type} (ofName? : String → Option α) : Decoder α := fun d n => do
  match ← resolve d n with
  | .scalar tag? text style =>
    match tag?.bind variantTag? with
    | none => ofName? text
    | some name =>
      guard (style = .plain && (text.isEmpty || isNull text))
      ofName? name
  | _ => failure

/-- The fields of a structure, none of them twice. Unless it is open, there are no other fields. -/
def fields (names : List String) (isOpen : Bool) : Decoder Fields := fun d n => do
  let entries ← match ← resolve d n with
    | .mapping _ entries => pure entries
    | .scalar _ text .plain => do
      guard text.isEmpty
      pure []
    | _ => failure
  let written ← entries.mapM fun (key, value) => do return (← string d key, value)
  let known := written.filter (names.contains ·.1)
  guard (isOpen || known.length = written.length)
  guard (known.map (·.1)).Nodup
  return known

def required {α : Type} (decode : Decoder α) (d : Document) (fs : Fields) (name : String) :
    Decoding α := do
  decode d (← fs.lookup name)

/-- A field with a value to take where it is missing. -/
def defaulted {α : Type} (decode : Decoder α) (d : Document) (fs : Fields) (name : String)
    (value : α) : Decoding α :=
  match fs.lookup name with
  | some n => decode d n
  | none => pure value

/-- Read the root of a text in bytes. -/
def ofBytes? {α : Type} (decode : Decoder α) (bytes : List UInt8) : Option α := do
  let d ← Document.ofBytes? bytes
  (decode d d.root).run' d.aliasLimit

end Decoder
end Jtag.Yaml
