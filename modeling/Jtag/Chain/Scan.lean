import Jtag.Chain.Shift

/-!
Finding out which parts are connected. Two different patterns are sent through the freshly captured
path of each column. What both bring back is what the chain captured; it is split into one entry per
part. Ones go last, so that all parts end in bypass.
-/

namespace Jtag.Chain

variable {σ : Type} [Driver σ]

/-- A part that a scan found: its identification code, if it has one, and the length of its
instruction register. -/
structure Found where
  idCode? : Option IdCode
  irLength : Nat
deriving DecidableEq, Repr

/-- Capture a column, shift `input`, and collect what comes out. -/
def captureAndExchange (column : Tap.Column) (input output : Register) : ChainAction σ Register := do
  capture column
  exchange input output .idle

/-- What a column captures, as seen behind ones and behind zeros that are followed by ones. -/
def captureTwice (length : Nat) (column : Tap.Column) : ChainAction σ (Register × Register) := do
  let ones ← makeFilled length true
  let zerosThenOnes := (← makeFilled (2 * length) true).overlay (List.replicate length false)
  let blank ← makeFilled length false
  let first ← captureAndExchange column ones blank
  let second ← captureAndExchange column zerosThenOnes blank
  return (first, second)

/-- The bits a column captures, if the chain is shorter than `length` bits. -/
def capturedPath (length : Nat) (column : Tap.Column) : ChainAction σ (List Bool) := do
  let (first, second) ← captureTwice length column
  let seen := Scan.agreement first.bits second.bits
  if seen = length then throw (.scan (.chainTooLong length))
  return first.bits.take seen

/-- The warning that goes with a data path that cannot be split. -/
def idCodeWarning? : ScanError → Option Warning
  | .truncatedIdCode => some .truncatedIdCode
  | .invalidIdCode id => some (.invalidIdCode id)
  | _ => none

/-- The bits in which a scan looks for the end of the data path. -/
def dataLimit (detect : DetectConfig) : Nat := Word.wrap (IdCode.length * max detect.maxParts 1)

/-- The bits in which a scan looks for the end of the instruction path. -/
def instructionLimit (detect : DetectConfig) : Nat := max detect.maxRegisterLength 1

/-- Identify the parts from what they capture after a reset. Known instruction lengths resolve a
capture that could be split in several ways. -/
def scan (expected? : Option (List Nat)) : ChainAction σ (List Found) := do
  let detect := (← get).config.detect
  reset
  let dr ← capturedPath (dataLimit detect) .data
  let idCodes ← match Scan.idCodes? dr with
    | .ok idCodes => pure idCodes
    | .error e =>
      if let some w := idCodeWarning? e then warn w
      throw (.scan e)
  let ir ← capturedPath (instructionLimit detect) .instruction
  match Scan.irLengths? ir idCodes.length expected? with
  | .ok lengths => return List.zipWith Found.mk idCodes lengths
  | .error fault =>
    warn (.split fault)
    throw (.scan .invalidIr)

/-! ### Parts from a scan -/

/-- Fill in what a definition left empty from the identification code. -/
def identify (names : Manufacturers) (id : IdCode) (p : Part) : Part :=
  { p with
    manufacturer :=
      if p.manufacturer.isEmpty then (id.manufacturerName? names).getD "Unknown"
      else p.manufacturer
    name := if p.name.isEmpty then Text.hex 4 id.partNumber else p.name
    stepping := if p.stepping.isEmpty then toString id.version else p.stepping }

/-- The opcode of all ones. The text gives out above the longest row there is, if not when it is made,
then when it is read. -/
def onesCode (length : Nat) : Except Error String :=
  if Word.rowLimit < length then .error (.overlong length)
  else .ok (String.ofList (List.replicate length '1'))

/-- Add the bypass instruction of all ones and activate it. -/
def addBypass (length : Nat) : Action Part Error Unit := do
  let code ← Action.ofExcept (onesCode length)
  Action.mapError .part do
    let _ ← Part.addInstruction Part.bypass code (some Part.bypass)
    Part.selectInstruction Part.bypass

/-- Set up a part of which only the scan is known: the identification register if it has a code, and
bypass, which is active. -/
def defineGeneric (hasCode : Bool) (irLength : Nat) : Action Part Error Unit := do
  Action.mapError .part do
    if hasCode then
      let _ ← Part.addRegister Part.dir IdCode.length
    Part.setInstructionLength irLength
    let _ ← Part.addRegister Part.bypass 1
  addBypass irLength

/-- A part of which only the scan is known. -/
def genericPart? (names : Manufacturers) (found : Found) : Except Error Part :=
  let blank := match found.idCode? with
    | none => Part.new none
    | some id => identify names id (Part.new (some id))
  match (defineGeneric found.idCode?.isSome found.irLength).runOn blank with
  | (.ok _, part) => .ok part
  | (.error e, _) => .error e

/-- Give a part a bypass instruction if it lacks one, and activate it. -/
def ensureBypass : Action Part Error Unit := do
  let p : Part ← get
  if (p.instructionIndex? Part.bypass).toOption.isNone then
    if (p.registerIndex? Part.bypass).toOption.isNone then
      let _ ← Action.mapError .part (Part.addRegister Part.bypass 1)
    addBypass p.instructionLength
  else Action.mapError .part (Part.selectInstruction Part.bypass)

/-- The length of the first register that cannot be held, unless one in front of it is refused. -/
def overlong? : List String → List RegisterEntry → Option Nat
  | _, [] => none
  | taken, r :: rest =>
    if r.name ∈ taken ∨ r.length = 0 then none
    else if Word.rowLimit < r.length then some r.length
    else overlong? (r.name :: taken) rest

/-- A part set up from its definition, with bypass active. -/
def definedPart? (id : IdCode) (d : Description) : Except Error Part := do
  if let some length := overlong? [] d.registers then throw (.overlong length)
  let part ← (Part.ofDescription? (some id) d).mapError .part
  match ensureBypass.runOn part with
  | (.ok _, part) => .ok part
  | (.error e, _) => .error e

/-- A part set up from its definition, unless that cannot be applied or contradicts the scan. A call
that was given up is not taken for a definition that cannot be applied. -/
def applyDefinition (names : Manufacturers) (id : IdCode) (d : Description) (irLength : Nat) :
    ChainAction σ (Option Part) := do
  match definedPart? id d with
  | .ok part =>
    if part.instructionLength = irLength then return some (identify names id part)
    else
      warn (.otherLength id part.instructionLength irLength)
      return none
  | .error (.part e) =>
    warn (.badDefinition id e)
    return none
  | .error e => throw e

/-- The part for what a scan found: from its definition in the database if that applies. -/
def partOf (names : Manufacturers) (database : Database) (found : Found) : ChainAction σ Part := do
  let defined? ← match found.idCode? with
    | none => pure none
    | some id =>
      match database.lookup? id with
      | none => pure none
      | some d => applyDefinition names id d found.irLength
  match defined? with
  | some part => return part
  | none => Action.ofExcept (genericPart? names found)

/-- Add a part for each of those that a scan found. -/
def addFound (names : Manufacturers) (database : Database) (found : List Found) : ChainAction σ Unit :=
  found.forM fun found => do
    let _ ← addPart (← partOf names database found)

/-- Replace the parts of the chain by those a scan finds; the answer has their number. A definition
of the database that does not apply is ignored with a warning. Bypass is active in every part. -/
def detectParts (names : Manufacturers) (expected? : Option (List Nat)) (database : Database) :
    ChainAction σ Nat := do
  let found ← scan expected?
  clearParts
  addFound names database found
  return (← get).parts.length

/-! ### Raw identification bytes -/

/-- Bytes after which reading ends where no limit is given. -/
def byteLimit : Nat := 1000

/-- Zero bytes in a row after which reading ends where no limit is given. -/
def zeroRun : Nat := 4

/-- Read at most `n` bytes; if `stopping`, only until a run of zero bytes, of which `zeros` came. -/
def readBytes (stopping : Bool) (blank : Register) :
    Nat → Nat → Register → ChainAction σ (List UInt8)
  | 0, _, _ => return []
  | n + 1, zeros, output => do
    let output ← exchange blank output .shift
    let byte := output.low64.toUInt8
    let zeros := if byte = 0 then zeros + 1 else 0
    if stopping && zeros = zeroRun then return [byte]
    else return byte :: (← readBytes stopping blank n zeros output)

/-- Read the data path after a reset, one byte at a time. Without a limit reading ends after a run
of zero bytes. -/
def idCodeBytes (limit? : Option Nat) : ChainAction σ (List UInt8) := do
  let blank ← Action.ofExcept ((Register.zeros? 8).mapError .register)
  trstReset
  capture .data
  readBytes limit?.isNone blank (limit?.getD byteLimit) 0 blank

end Jtag.Chain
