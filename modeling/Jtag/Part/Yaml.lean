import Jtag.Part.Description
import Jtag.Yaml.Decoder

/-!
Descriptions of parts, and databases of them, as they are written in files.
-/

namespace Jtag

open Yaml.Decoder

def CellType.ofName? : String → Option CellType
  | "I" | "input" => some .input
  | "O" | "output" => some .output
  | "B" | "bidir" => some .bidirectional
  | "C" | "control" => some .control
  | "X" | "internal" => some .internal
  | _ => none

def RegisterEntry.decoder : Yaml.Decoder RegisterEntry := fun d n => do
  let fs ← fields ["name", "length"] false d n
  return ⟨← required string d fs "name", ← required natural d fs "length"⟩

def InstructionEntry.decoder : Yaml.Decoder InstructionEntry := fun d n => do
  let fs ← fields ["name", "code", "register"] false d n
  return ⟨← required string d fs "name", ← required string d fs "code",
    ← defaulted (optional string) d fs "register" none⟩

def SignalEntry.decoder : Yaml.Decoder SignalEntry := fun d n => do
  let fs ← fields ["name", "pin"] false d n
  return ⟨← required string d fs "name", ← defaulted (optional string) d fs "pin" none⟩

/-- Another name of a signal. -/
def AliasEntry.decoder : Yaml.Decoder AliasEntry := fun d n => do
  let fs ← fields ["name", "signal"] false d n
  return ⟨← required string d fs "name", ← required string d fs "signal"⟩

/-- The control of an output, which may have further fields. -/
def ControlCell.decoder : Yaml.Decoder ControlCell := fun d n => do
  let fs ← fields ["bit", "disable_value"] true d n
  return ⟨← required natural d fs "bit", ← required bool d fs "disable_value"⟩

def CellEntry.decoder : Yaml.Decoder CellEntry := fun d n => do
  let fs ← fields ["bit", "type", "safe", "signal", "control"] false d n
  return {
    bit := ← required natural d fs "bit"
    type := ← required (variant CellType.ofName?) d fs "type"
    safe := ← defaulted bool d fs "safe" false
    signal? := ← defaulted (optional string) d fs "signal" none
    control? := ← defaulted (optional ControlCell.decoder) d fs "control" none }

namespace Description

def decoder : Yaml.Decoder Description := fun d n => do
  let names := ["manufacturer", "name", "stepping", "instruction_length", "data_registers",
    "instructions", "signals", "aliases", "boundary_bits"]
  let fs ← fields names false d n
  return {
    manufacturer := ← defaulted string d fs "manufacturer" ""
    name := ← defaulted string d fs "name" ""
    stepping := ← defaulted string d fs "stepping" ""
    instructionLength := ← required natural d fs "instruction_length"
    registers := ← defaulted (list RegisterEntry.decoder) d fs "data_registers" []
    instructions := ← defaulted (list InstructionEntry.decoder) d fs "instructions" []
    signals := ← defaulted (list SignalEntry.decoder) d fs "signals" []
    aliases := ← defaulted (list AliasEntry.decoder) d fs "aliases" []
    cells := ← defaulted (list CellEntry.decoder) d fs "boundary_bits" [] }

/-- The description that a text in bytes spells. -/
def ofYaml? (bytes : List UInt8) : Option Description := ofBytes? decoder bytes

end Description

/-- A description with the codes it applies to. -/
def DatabaseEntry.decoder : Yaml.Decoder DatabaseEntry := fun d n => do
  let fs ← fields ["manufacturer", "part_number", "versions", "definition"] false d n
  return {
    manufacturer := ← required string d fs "manufacturer"
    partNumber := ← required string d fs "part_number"
    versions := ← defaulted (list string) d fs "versions" []
    definition := ← required Description.decoder d fs "definition" }

namespace Database

def decoder : Yaml.Decoder Database := fun d n => do
  let fs ← fields ["parts"] false d n
  return ⟨← defaulted (list DatabaseEntry.decoder) d fs "parts" []⟩

/-- The database that a text in bytes spells. -/
def ofYaml? (bytes : List UInt8) : Option Database := ofBytes? decoder bytes

end Database
end Jtag
