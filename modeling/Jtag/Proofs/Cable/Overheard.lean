import Jtag.Cable.Recorder
import Jtag.Proofs.Cable.Trace

/-! A driver whose calls are overheard. It answers and fails like the driver itself, and every call it gets is
    written down with its arguments, also one that fails. -/

namespace Jtag

/-- The call that an item becomes when it goes to the driver alone. -/
def Item.call : Item → Call
  | clock tms tdi count => .clock tms tdi count
  | sampleTdo => .sampleTdo
  | transfer input capture => .transfer input capture
  | setSignals mask value => .setSignals mask value
  | sampleSignal lines => .sampleSignal lines

/-- A driver, and the calls it got, first one first. -/
structure Overheard (σ : Type) where
  driver : σ
  calls : List Call

namespace Overheard

variable {σ α : Type}

/-- Pass a call on, and write it down. -/
def hear (call : Call) (act : DriverAction σ α) : DriverAction (Overheard σ) α :=
  ExceptT.mk fun w =>
    let (answer, driver) := act.runOn w.driver
    (answer, ⟨driver, w.calls ++ [call]⟩)

instance [Driver σ] : Driver (Overheard σ) where
  name w := Driver.name w.driver
  strategy w := Driver.strategy w.driver
  init := hear .init Driver.init
  done := hear .done Driver.done
  setFrequency hz := hear (.frequency hz) (Driver.setFrequency hz)
  clock tms tdi count := hear (.clock tms tdi count) (Driver.clock tms tdi count)
  sampleTdo := hear .sampleTdo Driver.sampleTdo
  transfer input capture := hear (.transfer input capture) (Driver.transfer input capture)
  setSignals mask value := hear (.setSignals mask value) (Driver.setSignals mask value)
  sampleSignal lines := hear (.sampleSignal lines) (Driver.sampleSignal lines)
  flush := hear .flush Driver.flush

theorem framed [Driver σ] (h : Framed σ) : Framed (Overheard σ) := by
  intro input sampled w w' hrun
  obtain ⟨hanswer, -⟩ := Prod.ext_iff.mp hrun
  exact h input sampled w.driver _ (Prod.ext hanswer rfl)

end Overheard
end Jtag
