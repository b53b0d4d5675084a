import Jtag.Yaml.Token

/-!
What a document says: scalars, sequences and mappings, and aliases of nodes that carry an anchor.
-/

namespace Jtag.Yaml

/-- A node. Tags are given in full. -/
inductive Node where
  | scalar (tag? : Option TagBytes) (text : String) (style : ScalarStyle)
  | sequence (tag? : Option TagBytes) (items : List Node)
  | mapping (tag? : Option TagBytes) (entries : List (Node × Node))
  /-- The node that an anchor was given to. -/
  | alias (anchor : Nat)

/-- A document with the nodes that carry an anchor, in the order in which they start. -/
structure Document where
  root : Node
  anchored : List (Nat × Node)

namespace Node

/-- What stands where nothing is written. -/
def empty : Node := .scalar none "" .plain

mutual

/-- The length of a node in scalars and aliases, and in the brackets of sequences and mappings. -/
def size : Node → Nat
  | .scalar .. | .alias _ => 1
  | .sequence _ items => 2 + itemsSize items
  | .mapping _ entries => 2 + entriesSize entries

/-- The length of the items of a sequence. -/
def itemsSize : List Node → Nat
  | [] => 0
  | item :: rest => item.size + itemsSize rest

/-- The length of the entries of a mapping. -/
def entriesSize : List (Node × Node) → Nat
  | [] => 0
  | (key, value) :: rest => key.size + value.size + entriesSize rest

end

end Node

namespace Document

/-- The last node that carries an anchor. -/
def anchoredNode? (d : Document) (anchor : Nat) : Option Node :=
  (d.anchored.reverse.find? (·.1 = anchor)).map (·.2)

/-- The number of aliases that may be followed while values are read. -/
def aliasLimit (d : Document) : Nat := 100 * d.root.size

end Document
end Jtag.Yaml
