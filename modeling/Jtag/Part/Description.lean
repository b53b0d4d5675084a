import Jtag.Part.Drive

/-!
Declarative descriptions of parts, and databases of them. A part is set up from its description in a
fixed order: registers, instructions, signals, other names of signals, boundary cells.
-/

namespace Jtag

/-- A data register to define. -/
structure RegisterEntry where
  name : String
  length : Nat
deriving DecidableEq, Repr

structure InstructionEntry where
  name : String
  /-- The opcode, most significant bit first. -/
  code : String
  register? : Option String
deriving DecidableEq, Repr

structure SignalEntry where
  name : String
  pin? : Option String
deriving DecidableEq, Repr

/-- Another name for a signal. -/
structure AliasEntry where
  name : String
  signal : String
deriving DecidableEq, Repr

/-- A boundary cell to define. -/
structure CellEntry where
  bit : Nat
  type : CellType
  safe : Bool
  signal? : Option String
  control? : Option ControlCell
deriving DecidableEq, Repr

/-- Everything that is needed to set up a part. -/
structure Description where
  manufacturer : String
  name : String
  stepping : String
  instructionLength : Nat
  registers : List RegisterEntry
  instructions : List InstructionEntry
  signals : List SignalEntry
  aliases : List AliasEntry
  cells : List CellEntry
deriving DecidableEq, Repr

structure DatabaseEntry where
  /-- The manufacturer code in binary. -/
  manufacturer : String
  /-- The part number in binary. -/
  partNumber : String
  /-- The versions in binary it applies to; all of them, if none is listed. -/
  versions : List String
  definition : Description
deriving DecidableEq, Repr

/-- Descriptions that are looked up by identification code. -/
structure Database where
  entries : List DatabaseEntry
deriving DecidableEq, Repr

namespace Part

/-- Define everything a description lists, in order. -/
def define (d : Description) : PartAction Unit := do
  setInstructionLength d.instructionLength
  d.registers.forM fun r => do
    let _ ← addRegister r.name r.length
  d.instructions.forM fun i => do
    let _ ← addInstruction i.name i.code i.register?
  d.signals.forM fun s => do
    let _ ← addSignal s.name s.pin?
  d.aliases.forM fun a => addAlias a.name a.signal
  d.cells.forM fun c => defineCell c.bit c.type c.safe (c.signal?.getD "") c.control?

/-- The part that a description sets up. -/
def ofDescription? (id? : Option IdCode) (d : Description) : Except PartError Part :=
  let blank : Part :=
    { Part.new id? with manufacturer := d.manufacturer, name := d.name, stepping := d.stepping }
  match (define d).runOn blank with
  | (.ok _, part) => .ok part
  | (.error e, _) => .error e

end Part

namespace Database

def empty : Database := ⟨[]⟩

/-- Add an entry behind the others. -/
def add (db : Database) (entry : DatabaseEntry) : Database := ⟨db.entries ++ [entry]⟩

/-- The description of a part. An entry that lists the version goes before one that applies to all
of them; of several such entries the first one counts. -/
def lookup? (db : Database) (id : IdCode) : Option Description :=
  let key := id.key
  let fitting := db.entries.filter fun e =>
    e.manufacturer == key.manufacturer && e.partNumber == key.partNumber
  match fitting.find? (·.versions.contains key.version) with
  | some entry => some entry.definition
  | none => (fitting.find? (·.versions.isEmpty)).map (·.definition)

end Database
end Jtag
