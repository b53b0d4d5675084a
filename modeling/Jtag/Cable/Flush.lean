import Jtag.Cable.Basic

/-!
Executing deferred work. The plain way hands the items to the driver one by one. The combining way
gathers the longest run of clocks with TMS low, transfers and TDO samples at the front of the queue,
sends their bits as one transfer, and deals what came back out to the items of the run.
-/

namespace Jtag

/-- How much of the deferred work a flush has to get through. -/
inductive FlushAmount where
  /-- Only if it is worth while. -/
  | optionally
  /-- All output has to reach the hardware. -/
  | toOutput
  /-- Nothing may be left to do, and all results have to be there. -/
  | completely
deriving DecidableEq, Repr

namespace Item

/-- The item can be a piece of a combined transfer. -/
def combinable : Item → Bool
  | clock tms _ _ => !tms
  | transfer .. | sampleTdo => true
  | setSignals .. | sampleSignal _ => false

/-- The number of bits the item adds to a combined transfer. -/
def size : Item → Nat
  | clock _ _ count => count
  | transfer input _ => input.length
  | sampleTdo | setSignals .. | sampleSignal _ => 0

/-- The bits the item adds to a combined transfer. -/
def bits : Item → List Bool
  | clock _ tdi count => List.replicate count tdi
  | transfer input _ => input
  | sampleTdo | setSignals .. | sampleSignal _ => []

end Item

namespace Cable

variable {σ : Type} [Driver σ]

/-- Hand one item to the driver and keep what it yields. -/
def execute : Item → CableAction σ Unit
  | .clock tms tdi count => onDriver (Driver.clock tms tdi count)
  | .setSignals mask value => do
    let _ ← onDriver (Driver.setSignals mask value)
  | .transfer input capture => do
    let sampled ← onDriver (Driver.transfer input capture)
    if capture then pushOutcome (.transfer sampled)
  | .sampleTdo => do
    let value ← onDriver Driver.sampleTdo
    pushOutcome (.tdo value)
  | .sampleSignal lines => do
    let value ← onDriver (Driver.sampleSignal lines)
    pushOutcome (.signal lines value)

/-- Take the oldest item off and execute it. -/
def executeOldest : CableAction σ Unit := do
  execute (← popItem)

/-- Execute as many items, oldest first. -/
def executeTimes : Nat → CableAction σ Unit
  | 0 => pure ()
  | n + 1 => do
    executeOldest
    executeTimes n

/-- The items at the front of the queue that can go into one transfer. -/
def run (c : Cable σ) : List Item := c.todo.toList.takeWhile Item.combinable

/-- Give an item its part of the samples of a common transfer. An item that comes behind the last
bit samples TDO itself. -/
def deal (sampled : List Bool) : Item → CableAction σ Unit
  | .clock .. => pure ()
  | .transfer input capture => if capture then pushOutcome (.transfer (sampled.take input.length)) else pure ()
  | .sampleTdo =>
    match sampled with
    | value :: _ => pushOutcome (.tdo value)
    | [] => execute .sampleTdo
  | .setSignals .. | .sampleSignal _ => throw .queueOutOfSync

/-- Take as many items off as `group` has, dealing the samples of their common transfer out to
them. -/
def dealOut : List Item → List Bool → CableAction σ Unit
  | [], _ => pure ()
  | _ :: group, sampled => do
    let item ← popItem
    deal sampled item
    dealOut group (sampled.drop item.size)

/-- Send the bits of a run as one transfer. -/
def transferRun (group : List Item) : CableAction σ Unit := do
  let sampled ← onDriver (Driver.transfer (group.flatMap Item.bits) (group.any Item.hasOutcome))
  dealOut group sampled

/-- One round of the combining flush: a run of at least two items that has bits goes out as one
transfer, otherwise the oldest item goes out alone. -/
def combineRound : CableAction σ Unit := do
  let group ← Action.inspect run
  if group.length ≤ 1 || group.all (·.size == 0) then executeOldest else transferRun group

/-- Rounds of the combining flush until nothing is pending. Each round takes at least one item
off, so the number of pending items is enough fuel. -/
def combineRounds : Nat → CableAction σ Unit
  | 0 => pure ()
  | fuel + 1 => do
    if ← Action.inspect (·.todo.isEmpty) then return
    combineRound
    combineRounds fuel

/-- An optional flush is worth while once the threshold is reached. -/
def worthwhile (c : Cable σ) (amount : FlushAmount) : Bool :=
  match amount, c.threshold? with
  | .optionally, some threshold => threshold ≤ c.todo.count
  | .optionally, none => false
  | _, _ => true

/-- Execute the deferred work the way the driver wants it. -/
def drain (amount : FlushAmount) : CableAction σ Unit := do
  let c ← get
  match c.strategy with
  | .oneByOne => executeTimes c.pending
  | .combineTransfers => if c.worthwhile amount then combineRounds c.pending

/-- Execute deferred work, and unless that was optional let the driver send what it holds back. -/
def flush (amount : FlushAmount) : CableAction σ Unit := do
  unless ← Action.inspect (·.todo.isEmpty) do drain amount
  unless amount = .optionally do onDriver Driver.flush

end Cable
end Jtag
