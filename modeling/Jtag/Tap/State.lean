/-!
The states of a TAP controller. Two of them stand alone; the others lie in two columns, one for data
registers and one for instruction registers, with the same seven stages.
-/

namespace Jtag.Tap

/-- Which kind of register a column of the state diagram serves. -/
inductive Column where
  | data
  | instruction
deriving DecidableEq, Repr

/-- The stages of a column, in the order of a scan. -/
inductive Stage where
  | select
  | capture
  | shift
  | exit1
  | pause
  | exit2
  | update
deriving DecidableEq, Repr

/-- A state of a TAP controller as the host sees it. -/
inductive State where
  /-- Nothing is known about the controller. -/
  | unknown
  | testLogicReset
  | runTestIdle
  /-- A stage of one of the two columns. -/
  | scan (column : Column) (stage : Stage)
deriving DecidableEq, Repr

namespace Column

/-- The two letters of a column. -/
def name : Column → String
  | .data => "DR"
  | .instruction => "IR"

end Column

namespace Stage

/-- All stages, in the order of a scan. -/
def all : List Stage := [select, capture, shift, exit1, pause, exit2, update]

def name : Stage → String
  | select => "Select"
  | capture => "Capture"
  | shift => "Shift"
  | exit1 => "Exit1"
  | pause => "Pause"
  | exit2 => "Exit2"
  | update => "Update"

end Stage

namespace State

/-- The sixteen states a controller can be in. -/
def all : List State :=
  [testLogicReset, runTestIdle] ++ Stage.all.map (scan .data) ++ Stage.all.map (scan .instruction)

/-- The state after one clock with the given level of TMS. -/
def next (tms : Bool) : State → State
  | unknown => unknown
  | testLogicReset => if tms then testLogicReset else runTestIdle
  | runTestIdle => if tms then scan .data .select else runTestIdle
  | scan .data .select => if tms then scan .instruction .select else scan .data .capture
  | scan .instruction .select => if tms then testLogicReset else scan .instruction .capture
  | scan c .capture => scan c (if tms then .exit1 else .shift)
  | scan c .shift => scan c (if tms then .exit1 else .shift)
  | scan c .exit1 => scan c (if tms then .update else .pause)
  | scan c .pause => scan c (if tms then .exit2 else .pause)
  | scan c .exit2 => scan c (if tms then .update else .shift)
  | scan _ .update => if tms then scan .data .select else runTestIdle

/-- The state lies in the data register column. -/
def isData : State → Bool
  | scan .data _ => true
  | _ => false

/-- The state lies in the instruction register column. -/
def isInstruction : State → Bool
  | scan .instruction _ => true
  | _ => false

/-- Holding TMS low from here shifts a register. -/
def isShift : State → Bool
  | scan _ .capture | scan _ .shift | scan _ .exit2 => true
  | _ => false

def isCapture : State → Bool
  | scan _ .capture => true
  | _ => false

def isUpdate : State → Bool
  | scan _ .update => true
  | _ => false

def isPause : State → Bool
  | scan _ .pause => true
  | _ => false

/-- The controller rests between scans. -/
def isIdle : State → Bool
  | testLogicReset | runTestIdle | scan _ .update => true
  | _ => false

/-- The state carries no scan: a reset controller, or one nothing is known about. -/
def isReset : State → Bool
  | testLogicReset | unknown => true
  | _ => false

/-- A capture may start here: Run-Test/Idle and the update states. -/
def canStartCapture (s : State) : Bool := s.isIdle && !s.isReset

/-- The name of a state in the standard. -/
def name : State → String
  | unknown => "Unknown"
  | testLogicReset => "Test-Logic-Reset"
  | runTestIdle => "Run-Test/Idle"
  | scan column .select => s!"Select-{column.name}-Scan"
  | scan column stage => s!"{stage.name}-{column.name}"

/-- A short label of a state, for listings. -/
def label : State → String
  | unknown => "Unknown"
  | testLogicReset => "TestLogicReset"
  | runTestIdle => "RunTestIdle"
  | scan .data stage => s!"Dr({stage.name})"
  | scan .instruction stage => s!"Ir({stage.name})"

end State
end Jtag.Tap
