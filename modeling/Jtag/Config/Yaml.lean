import Jtag.Config
import Jtag.Yaml.Decoder

/-!
Configurations as they are written in files. Every field may be left out.
-/

namespace Jtag

open Yaml.Decoder

/-- The sizes and the threshold of the queues. -/
def QueueConfig.decoder : Yaml.Decoder QueueConfig := fun d n => do
  let fs ← fields ["initial_capacity", "growth", "optional_flush_threshold"] false d n
  let usual := QueueConfig.default
  return {
    initialCapacity := ← defaulted natural d fs "initial_capacity" usual.initialCapacity
    growth := ← defaulted natural d fs "growth" usual.growth
    optionalFlushThreshold :=
      ← defaulted (optional natural) d fs "optional_flush_threshold" usual.optionalFlushThreshold }

/-- The parameters of detection. -/
def DetectConfig.decoder : Yaml.Decoder DetectConfig := fun d n => do
  let names := ["max_register_length", "pattern_bits", "test_count", "threshold_percent", "max_parts"]
  let fs ← fields names false d n
  let usual := DetectConfig.default
  return {
    maxRegisterLength := ← defaulted natural d fs "max_register_length" usual.maxRegisterLength
    patternBits := ← defaulted natural d fs "pattern_bits" usual.patternBits
    testCount := ← defaulted natural d fs "test_count" usual.testCount
    thresholdPercent := ← defaulted natural d fs "threshold_percent" usual.thresholdPercent
    maxParts := ← defaulted natural d fs "max_parts" usual.maxParts }

namespace Config

def decoder : Yaml.Decoder Config := fun d n => do
  let fs ← fields ["queue", "detect"] false d n
  return {
    queue := ← defaulted QueueConfig.decoder d fs "queue" .default
    detect := ← defaulted DetectConfig.decoder d fs "detect" .default }

/-- The configuration that a text in bytes spells. -/
def ofYaml? (bytes : List UInt8) : Option Config := ofBytes? decoder bytes

end Config
end Jtag
