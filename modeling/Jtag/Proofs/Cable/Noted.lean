import Jtag.Proofs.Cable.Steady

/-! A driver that notes what became of the test reset line. It does to the lines what the driver itself does, and
    it remembers the levels of TMS of the clocks since the line went high or low last. -/

namespace Jtag

/-- A driver, and the levels of TMS since its test reset line changed. -/
structure Noted (σ : Type) where
  driver : σ
  levels : List Bool

namespace Noted

variable {σ α : Type}

/-- A call that neither clocks nor drives. -/
def pass (act : DriverAction σ α) : DriverAction (Noted σ) α :=
  Action.within Noted.driver (fun w driver => { w with driver }) act

theorem runOn_pass {act : DriverAction σ α} {a : α} {s : σ} {w : Noted σ} (h : act.runOn w.driver = (.ok a, s)) :
    (pass act).runOn w = (.ok a, { w with driver := s }) := by
  rw [pass, Action.runOn_within, h]

/-- What is left of the notes when lines are driven. -/
def afterDrive (old new : Signals) (levels : List Bool) : List Bool := if old.trst = new.trst then levels else []

def clock [Driver σ] (tms tdi : Bool) (count : Nat) : DriverAction (Noted σ) Unit := do
  pass (Driver.clock tms tdi count)
  Action.change fun w => { w with levels := w.levels ++ List.replicate count tms }

def setSignals [Driver σ] (mask value : Signals) : DriverAction (Noted σ) Signals := do
  let old ← pass (Driver.setSignals mask value)
  Action.change fun w => { w with levels := afterDrive old (old.drive mask value) w.levels }
  return old

instance [Driver σ] : Driver (Noted σ) where
  name w := Driver.name w.driver
  strategy w := Driver.strategy w.driver
  init := pass Driver.init
  done := pass Driver.done
  setFrequency hz := pass (Driver.setFrequency hz)
  clock := clock
  sampleTdo := pass Driver.sampleTdo
  transfer input capture := Driver.transferByBits (pass Driver.sampleTdo) clock capture input
  setSignals := setSignals
  sampleSignal lines := pass (Driver.sampleSignal lines)
  flush := pass Driver.flush

end Noted

namespace Steady

variable {σ : Type} [Driver σ] (d : Steady σ)

theorem iterate_noted (k : Tick) (count : Nat) (w : Noted σ) :
    (fun w : Noted σ => (⟨d.step k w.driver, w.levels ++ [k.tms]⟩ : Noted σ))^[count] w =
      ⟨(d.step k)^[count] w.driver, w.levels ++ List.replicate count k.tms⟩ := by
  induction count generalizing w with
  | zero => simp
  | succ count ih =>
    rw [Function.iterate_succ_apply, ih, Function.iterate_succ_apply, List.append_assoc]
    rfl

/-- A steady driver that notes the levels of TMS is steady. -/
def noted : Steady (Noted σ) where
  step k w := ⟨d.step k w.driver, w.levels ++ [k.tms]⟩
  tdo w := d.tdo w.driver
  drive mask value w :=
    let (old, driver) := d.drive mask value w.driver
    (old, ⟨driver, Noted.afterDrive old (old.drive mask value) w.levels⟩)
  sense lines w := ((d.sense lines w.driver).1, { w with driver := (d.sense lines w.driver).2 })
  settle w := { w with driver := d.settle w.driver }
  clock_eq tms tdi count w := by
    rw [iterate_noted]
    exact Action.runOn_bind_ok (Noted.runOn_pass (d.clock_eq tms tdi count w.driver)) _
  sampleTdo_eq w := Noted.runOn_pass (d.sampleTdo_eq w.driver)
  transfer_eq _ _ := rfl
  setSignals_eq mask value w := Action.runOn_bind_ok (Noted.runOn_pass (d.setSignals_eq mask value w.driver)) _
  sampleSignal_eq lines w := Noted.runOn_pass (d.sampleSignal_eq lines w.driver)
  flush_eq w := Noted.runOn_pass (d.flush_eq w.driver)

end Steady
end Jtag
