import Jtag.Chain.Shift
import Jtag.Register.Count

/-!
Measuring register paths. A candidate length is tried by shifting as many zeros, then a test pattern;
if the path is as long, the pattern comes back behind exactly as many bits. The pattern counts up
through all its values, and every one has to come back in enough of its trials.
-/

namespace Jtag.Chain

variable {σ : Type} [Driver σ]

/-- What is carried from trial to trial: the register that collects, and what was seen of TDO: nothing
yet, one level in all trials, or a change. -/
structure Probe where
  output : Register
  stuck : Option (Option Bool)

/-- Add what one trial showed of TDO to what was seen before. -/
def Probe.see (seen : Option (Option Bool)) (level : Option Bool) : Option (Option Bool) :=
  match seen with
  | none => some level
  | some stuck => if stuck = level then some stuck else some none

/-- One trial: zeros, then the pattern. The answer tells whether the pattern came back. -/
def probeOnce (length : Nat) (zeros pattern : Register) (probe : Probe) :
    ChainAction σ (Bool × Probe) := do
  shift zeros .shift
  let output ← exchange pattern probe.output .shift
  let stuck := Probe.see probe.stuck output.uniform?
  let output := output.shiftRight length
  return (output.bits == pattern.bits, ⟨output, stuck⟩)

/-- Trials of one pattern; the answer counts those that brought it back. -/
def probeTrials (length : Nat) (zeros pattern : Register) :
    Nat → Nat → Probe → ChainAction σ (Nat × Probe)
  | 0, good, probe => return (good, probe)
  | trials + 1, good, probe => do
    let (back, probe) ← probeOnce length zeros pattern probe
    probeTrials length zeros pattern trials (good + back.toNat) probe

/-- All patterns from `pattern` on, `n` of them, until one fails. The answer has the trials that
brought the last pattern back, zero after a failure. A hundred times their number fits a word up
to `Word.size / 100` trials, and no run gets to more. -/
def probePatterns (trials threshold length : Nat) (zeros : Register) :
    Nat → Register → Nat → Probe → ChainAction σ (Nat × Probe)
  | 0, _, good, probe => return (good, probe)
  | n + 1, pattern, _, probe => do
    let (good, probe) ← probeTrials length zeros pattern trials 0 probe
    if 100 * good / trials < threshold then return (0, probe)
    else probePatterns trials threshold length zeros n pattern.increment good probe

/-- Try `n` lengths from `length` on. The answer has the first one that is accepted, and what was
seen of TDO. -/
def probeLengths (detect : DetectConfig) :
    Nat → Nat → Option (Option Bool) → ChainAction σ (Option Nat × Option (Option Bool))
  | 0, _, stuck => return (none, stuck)
  | n + 1, length, stuck => do
    let blank (length : Nat) : ChainAction σ Register :=
      Action.ofExcept ((Register.zeros? length).mapError .register)
    let zeros ← blank length
    let output ← blank (length + detect.patternBits)
    let (good, probe) ← probePatterns (max detect.testCount 1) detect.thresholdPercent length zeros
      (1 <<< detect.patternBits - 1) output.increment 0 ⟨output, stuck⟩
    if 0 < good then return (some length, probe.stuck)
    else probeLengths detect n (length + 1) probe.stuck

/-- The width of the words that patterns are counted in. -/
def wordBits : Nat := 64

/-- Measure the register path that is being shifted. The chain has to be in the capture or shift
state of its column. -/
def detectLength : ChainAction σ (Option Nat) := do
  let detect := (← get).config.detect
  if detect.patternBits = 0 ∨ wordBits ≤ detect.patternBits then
    throw (.detectionFailed "invalid test pattern width")
  let (found, stuck) ← probeLengths detect detect.maxRegisterLength 1 none
  if found.isNone then
    if let some (some level) := stuck then warn (.stuckTdo level)
  return found

/-- The length of the data path that one instruction value selects, if one was found. -/
structure PathLength where
  instruction : Register
  length? : Option Nat

/-- What a discovery found: the length of the instruction path, and the data path of every
instruction value. -/
structure Discovery where
  irLength : Nat
  paths : List PathLength

/-- Load an instruction value and measure the data path it selects. -/
def measurePath (instruction : Register) : ChainAction σ PathLength := do
  trstReset
  capture .instruction
  shift instruction .idle
  capture .data
  let length? ← detectLength
  return ⟨instruction, length?⟩

/-- Measure instruction values counting up from `instruction` until the count comes back to `first`,
at most `n` of them. -/
def measurePaths (first : Register) : Nat → Register → ChainAction σ (List PathLength)
  | 0, _ => return []
  | n + 1, instruction => do
    let path ← measurePath instruction
    let next := instruction.increment
    if next = first then return [path]
    else return path :: (← measurePaths first n next)

/-- Measure the instruction path, and then the data path of every instruction value, starting with
all ones. -/
def discover : ChainAction σ Discovery := do
  trstReset
  capture .instruction
  match ← detectLength with
  | none =>
    warn .unknownIrLength
    throw (.detectionFailed "invalid instruction register length")
  | some irLength =>
    let first ← Action.ofExcept ((Register.filled? irLength true).mapError .register)
    return ⟨irLength, ← measurePaths first (1 <<< irLength) first⟩

end Jtag.Chain
