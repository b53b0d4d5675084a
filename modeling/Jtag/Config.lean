/-!
Tunables of a chain and of the queues of its cable. Everything has a default.
-/

namespace Jtag

/-- Sizes of the queues of a cable, and when they are flushed. -/
structure QueueConfig where
  /-- Slots a queue starts with. -/
  initialCapacity : Nat
  /-- Slots added whenever a full queue takes another item. -/
  growth : Nat
  /-- Pending items from which on an optional flush is carried out. Without it everything waits
  until output is needed. -/
  optionalFlushThreshold : Option Nat
deriving DecidableEq, Repr

/-- Parameters of register length detection and of scanning. -/
structure DetectConfig where
  /-- The longest register tried. -/
  maxRegisterLength : Nat
  /-- The width of the test pattern behind a cleared register. -/
  patternBits : Nat
  /-- Trials per pattern. -/
  testCount : Nat
  /-- The part of the trials, in percent, that has to bring the pattern back. -/
  thresholdPercent : Nat
  /-- The most devices a scan looks for. -/
  maxParts : Nat
deriving DecidableEq, Repr

/-- The configuration of a chain. -/
structure Config where
  queue : QueueConfig
  detect : DetectConfig
deriving DecidableEq, Repr

namespace QueueConfig

def default : QueueConfig := ⟨128, 128, none⟩

end QueueConfig

namespace DetectConfig

def default : DetectConfig := ⟨1024, 8, 1, 100, 8⟩

end DetectConfig

namespace Config

def default : Config := ⟨.default, .default⟩

end Config
end Jtag
