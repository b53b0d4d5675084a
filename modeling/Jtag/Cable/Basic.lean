import Jtag.Cable.Driver
import Jtag.Cable.Memory
import Jtag.Cable.Queue
import Jtag.Config

/-!
A cable: a driver with a queue of deferred work in front of it and a queue of results behind it.
-/

namespace Jtag

/-- A driver together with its queues. -/
structure Cable (σ : Type) where
  driver : σ
  /-- How the driver wants its work executed, as it said when it was taken over. -/
  strategy : FlushStrategy
  /-- Deferred work. -/
  todo : Queue Item
  /-- Results nobody picked up yet. -/
  finished : Queue Outcome
  /-- Pending items from which on an optional flush combines them; never, if missing. -/
  threshold? : Option Nat
  /-- The last frequency that was set in Hz, zero before. -/
  frequency : Nat
  /-- The pause of a wait in microseconds. -/
  delay : Nat
  /-- What the queues get when they grow. -/
  memory : Memory

abbrev CableAction (σ α : Type) := Action (Cable σ) CableError α

namespace Cable

variable {σ α : Type}

/-- Take over a driver. -/
def new [Driver σ] (driver : σ) (config : QueueConfig) (memory : Memory) : Cable σ where
  driver := driver
  strategy := Driver.strategy driver
  todo := Queue.withCapacity config.initialCapacity config.growth
  finished := Queue.withCapacity config.initialCapacity config.growth
  threshold? := config.optionalFlushThreshold
  frequency := 0
  delay := 0
  memory := memory

/-- The number of operations that wait to be executed. -/
def pending (c : Cable σ) : Nat := c.todo.count

/-- The number of results that wait to be picked up. -/
def results (c : Cable σ) : Nat := c.finished.count

/-- A call on the driver alone. -/
def onDriver (act : DriverAction σ α) : CableAction σ α :=
  Action.within (·.driver) (fun c driver => { c with driver }) act

/-- Take the oldest deferred item off. -/
def popItem : CableAction σ Item :=
  Action.within (·.todo) (fun c todo => { c with todo }) Queue.pop

/-- Put an item behind the deferred ones. -/
def pushItem (item : Item) : CableAction σ Unit :=
  ExceptT.mk fun c =>
    let (granted, memory) := c.memory.ask c.todo.isFull c.todo.growth
    let (answer, todo) := (Queue.push granted item).runOn c.todo
    (answer, { c with todo, memory })

/-- Take the oldest result off. -/
def popOutcome : CableAction σ Outcome :=
  Action.within (·.finished) (fun c finished => { c with finished }) Queue.pop

/-- Put a result behind the others. -/
def pushOutcome (outcome : Outcome) : CableAction σ Unit :=
  ExceptT.mk fun c =>
    let (granted, memory) := c.memory.ask c.finished.isFull c.finished.growth
    let (answer, finished) := (Queue.push granted outcome).runOn c.finished
    (answer, { c with finished, memory })

/-- Drop all deferred work and all results. -/
def purge : CableAction σ Unit :=
  Action.change fun c => { c with todo := c.todo.purge, finished := c.finished.purge }

def purgeResults : CableAction σ Unit :=
  Action.change fun c => { c with finished := c.finished.purge }

/-! ### Running the small calls -/

theorem runOn_onDriver (act : DriverAction σ α) (c : Cable σ) :
    (onDriver act).runOn c = ((act.runOn c.driver).1, { c with driver := (act.runOn c.driver).2 }) := rfl

theorem runOn_popItem (c : Cable σ) : popItem.runOn c =
    (((Queue.pop : QueueAction Item Item).runOn c.todo).1,
      { c with todo := ((Queue.pop : QueueAction Item Item).runOn c.todo).2 }) := rfl

theorem runOn_pushItem (item : Item) (c : Cable σ) : (pushItem item).runOn c =
    let (granted, memory) := c.memory.ask c.todo.isFull c.todo.growth
    let (answer, todo) := (Queue.push granted item).runOn c.todo
    (answer, { c with todo, memory }) := rfl

theorem runOn_popOutcome (c : Cable σ) : popOutcome.runOn c =
    (((Queue.pop : QueueAction Outcome Outcome).runOn c.finished).1,
      { c with finished := ((Queue.pop : QueueAction Outcome Outcome).runOn c.finished).2 }) := rfl

theorem runOn_pushOutcome (outcome : Outcome) (c : Cable σ) : (pushOutcome outcome).runOn c =
    let (granted, memory) := c.memory.ask c.finished.isFull c.finished.growth
    let (answer, finished) := (Queue.push granted outcome).runOn c.finished
    (answer, { c with finished, memory }) := rfl

end Cable
end Jtag
