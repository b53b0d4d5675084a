import Jtag.Action
import Jtag.Register.Count
import Jtag.Register.Text

/-!
Registers that keep their text. The text is made when it is first asked for and then kept; whatever may
change a bit drops it.
-/

namespace Jtag

/-- A register with the text that was made of it. -/
structure CachedRegister where
  register : Register
  /-- The text, if one was made since the register was changed last. -/
  text? : Option String
deriving DecidableEq, Repr

abbrev CachedAction (α : Type) := Action CachedRegister RegisterError α

namespace CachedRegister

/-- A register of which no text was made yet. -/
def ofRegister (r : Register) : CachedRegister := ⟨r, none⟩

/-- The text of the register, most significant bit first. -/
def text : CachedAction String := do
  let c ← get
  match c.text? with
  | some s => return s
  | none =>
    let s := c.register.text
    set { c with text? := some s }
    return s

/-- The text of the register with its length, for listings. -/
def labelled : CachedAction String := do
  let s ← text
  return s!"TapRegister({(← get).register.length}: {s})"

/-- Drop the text. -/
def invalidate : CachedAction Unit := Action.change fun c => { c with text? := none }

/-- Change the register by a change that cannot fail. -/
def mutate (f : Register → Register) : CachedAction Unit := do
  invalidate
  Action.change fun c => { c with register := f c.register }

/-- Change the register if a check lets it pass. Behind a failed check the text is still good. -/
def mutateChecked (f : Register → Except RegisterError Register) : CachedAction Unit := do
  let register ← Action.ofExcept (f (← get).register)
  mutate fun _ => register

/-- Set the bit at `index`; nothing is answered where the register has no such bit. -/
def set? (index : Nat) (value : Bool) : CachedAction (Option Unit) := do
  invalidate
  match (← get).register.set? index value with
  | none => return none
  | some register =>
    Action.change fun c => { c with register }
    return some ()

def fill (value : Bool) : CachedAction Unit := mutate (·.fill value)

def invert : CachedAction Unit := mutate Register.invert

/-- Write bits over the start of the register, as far as both reach. -/
def overlay (bits : List Bool) : CachedAction Unit := mutate (·.overlay bits)

def increment : CachedAction Unit := mutate Register.increment

def decrement : CachedAction Unit := mutate Register.decrement

def shiftLeft (amount : Nat) : CachedAction Unit := mutate (·.shiftLeft amount)

def shiftRight (amount : Nat) : CachedAction Unit := mutate (·.shiftRight amount)

/-- Take over `bits`, which have to be as many as the register holds. -/
def copyFrom (bits : List Bool) : CachedAction Unit := mutateChecked (·.copyFrom? bits)

/-- Load the register from a text of exactly as many characters. -/
def load (s : String) : CachedAction Unit := mutateChecked (·.load? s)

end CachedRegister
end Jtag
