import Jtag.IdCode.Basic

/-!
Names of manufacturers. They are assigned by a registry that is kept elsewhere and grows, so that every
call that needs a name is given the registry.
-/

namespace Jtag

/-- A registry of manufacturers: the name, if there is one, for the continuation count and the identity
of an identification code. -/
abbrev Manufacturers := Nat → Nat → Option String

namespace IdCode

def manufacturerName? (names : Manufacturers) (id : IdCode) : Option String :=
  names id.continuation id.identity

/-- A code for display: hexadecimal, with the manufacturer where it is known. -/
def display (names : Manufacturers) (id : IdCode) : String :=
  match id.manufacturerName? names with
  | some name => s!"{id.hex} ({name})"
  | none => id.hex

end IdCode
end Jtag
