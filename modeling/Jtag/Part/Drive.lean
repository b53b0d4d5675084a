import Jtag.Part.Define

/-!
Using a part: selecting the instruction of the next scan, driving pins through the boundary scan
register, and reading what the last scan brought back.
-/

namespace Jtag.Part

/-- Select the instruction that the next scan shifts. An unknown name leaves the part without
one. -/
def selectInstruction (name : String) : PartAction Unit := do
  let p ← get
  let found := p.instructionIndex? name
  set { p with active? := found.toOption }
  let _ ← Action.ofExcept found

def controlOf? (p : Part) (signal : Signal) : Option ControlCell := do
  let bit ← signal.output?
  let cell ← p.cell? bit
  cell.control?

def signal? (p : Part) (name : String) : Except PartError Signal := do
  match p.signals[← p.signalIndex? name]? with
  | some signal => .ok signal
  | none => .error (.signalNotFound name)

/-- Drive a signal with `value`, or release it so that it can be sampled. Only what is shifted in
changes; the pin follows with the next scan of the boundary register. -/
def setSignal (name : String) (direction : Direction) (value : Bool) : PartAction Unit := do
  let p ← get
  let signal ← Action.ofExcept (p.signal? name)
  let control? := p.controlOf? signal
  let boundary ← Action.ofExcept p.boundaryIndex?
  match direction with
  | .output =>
    match signal.output? with
    | none => throw (.notAnOutput name)
    | some bit =>
      setInputBit boundary bit value
      if let some control := control? then
        setInputBit boundary control.bit (!control.disableValue)
  | .input =>
    if signal.input?.isNone then throw (.notAnInput name)
    if let some control := control? then
      setInputBit boundary control.bit control.disableValue

/-- The level of a signal that the last scan captured. -/
def readSignal? (p : Part) (name : String) : Except PartError Bool := do
  let signal ← p.signal? name
  match signal.input? with
  | none => .error (.notAnInput name)
  | some bit =>
    match p.register? bsr with
    | .error _ => .error .boundaryScanRegisterMissing
    | .ok register =>
      match register.output.get? bit with
      | some value => .ok value
      | none => .error (.bitOutOfRange bit register.length)

/-- A text filled up with blanks to a width. -/
def column (width : Nat) (text : String) : String :=
  text ++ String.ofList (List.replicate (width - text.length) ' ')

/-- One line about the part: who made it, what it is, and what is active. -/
def display (p : Part) : String :=
  let instruction := (p.activeInstruction?.map (·.name)).getD "(none)"
  let register := (p.activeRegister?.map (·.name)).getD "(none)"
  " ".intercalate
    [column 25 p.manufacturer, column 20 p.name, column 8 p.stepping, column 20 instruction,
      register]

end Jtag.Part
