import Jtag.BitBang.Cable
import Jtag.Cable.Recorder
import Jtag.Sim.Cable

/-!
A driver of any kind, so that cables of different kinds can follow each other on one chain.
-/

namespace Jtag

/-- A driver of one of the kinds there are. -/
inductive AnyPod where
  | sim (pod : Sim.Pod)
  | bitBang (pod : BitBang.Pod BitBang.Script)
  | recorder (pod : Recorder)
deriving Repr

namespace AnyPod

variable {α : Type}

/-- Run the call of the kind at hand. -/
def dispatch (onSim : DriverAction Sim.Pod α)
    (onBitBang : DriverAction (BitBang.Pod BitBang.Script) α) (onRecorder : DriverAction Recorder α) :
    DriverAction AnyPod α :=
  ExceptT.mk fun
    | sim pod => let (answer, pod) := onSim.runOn pod; (answer, sim pod)
    | bitBang pod => let (answer, pod) := onBitBang.runOn pod; (answer, bitBang pod)
    | recorder pod => let (answer, pod) := onRecorder.runOn pod; (answer, recorder pod)

instance : Driver AnyPod where
  name
    | sim pod => Driver.name pod
    | bitBang pod => Driver.name pod
    | recorder pod => Driver.name pod
  strategy
    | sim pod => Driver.strategy pod
    | bitBang pod => Driver.strategy pod
    | recorder pod => Driver.strategy pod
  init := dispatch Driver.init Driver.init Driver.init
  done := dispatch Driver.done Driver.done Driver.done
  setFrequency hz :=
    dispatch (Driver.setFrequency hz) (Driver.setFrequency hz) (Driver.setFrequency hz)
  clock tms tdi count :=
    dispatch (Driver.clock tms tdi count) (Driver.clock tms tdi count) (Driver.clock tms tdi count)
  sampleTdo := dispatch Driver.sampleTdo Driver.sampleTdo Driver.sampleTdo
  transfer input capture :=
    dispatch (Driver.transfer input capture) (Driver.transfer input capture)
      (Driver.transfer input capture)
  setSignals mask value :=
    dispatch (Driver.setSignals mask value) (Driver.setSignals mask value)
      (Driver.setSignals mask value)
  sampleSignal lines :=
    dispatch (Driver.sampleSignal lines) (Driver.sampleSignal lines) (Driver.sampleSignal lines)
  flush := dispatch Driver.flush Driver.flush Driver.flush

end AnyPod
end Jtag
