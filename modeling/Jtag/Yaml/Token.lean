/-!
The tokens of a document.
-/

namespace Jtag.Yaml

/-- How a scalar is written. -/
inductive ScalarStyle where
  | plain
  | singleQuoted
  | doubleQuoted
  | literal
  | folded
deriving DecidableEq, Repr

/-- A tag or a part of one, in bytes: what escapes spell need not be text. -/
abbrev TagBytes := List UInt8

def TagBytes.ofText (text : List Char) : TagBytes := text.flatMap String.utf8EncodeChar

inductive Token where
  | versionDirective (major minor : Nat)
  | tagDirective (handle : String) (stem : TagBytes)
  | documentStart
  | documentEnd
  | blockSequenceStart
  | blockMappingStart
  | blockEnd
  | flowSequenceStart
  | flowSequenceEnd
  | flowMappingStart
  | flowMappingEnd
  | blockEntry
  | flowEntry
  | key
  | value
  | alias (name : String)
  | anchor (name : String)
  /-- A tag with its handle; an empty handle leaves the rest as it is. -/
  | tag (handle : String) (suffix : TagBytes)
  | scalar (text : String) (style : ScalarStyle)
deriving DecidableEq, Repr

end Jtag.Yaml
