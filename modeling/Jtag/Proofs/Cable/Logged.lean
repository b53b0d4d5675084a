import Jtag.Proofs.Cable.Steady

/-! A driver that writes down its clocks. It does to the lines what the driver itself does, its transfers one bit
    after the other, and the clocks of everything that was sent can be read off in their order. -/

namespace Jtag

/-- A driver, and the clocks it got. -/
structure Logged (σ : Type) where
  driver : σ
  ticks : List Tick

namespace Logged

variable {σ α : Type}

/-- A call that makes no clock. -/
def pass (act : DriverAction σ α) : DriverAction (Logged σ) α :=
  Action.within Logged.driver (fun w driver => { w with driver }) act

theorem runOn_pass {act : DriverAction σ α} {a : α} {s : σ} {w : Logged σ} (h : act.runOn w.driver = (.ok a, s)) :
    (pass act).runOn w = (.ok a, { w with driver := s }) := by
  rw [pass, Action.runOn_within, h]

def clock [Driver σ] (tms tdi : Bool) (count : Nat) : DriverAction (Logged σ) Unit := do
  pass (Driver.clock tms tdi count)
  Action.change fun w => { w with ticks := w.ticks ++ List.replicate count ⟨tms, tdi⟩ }

instance [Driver σ] : Driver (Logged σ) where
  name w := Driver.name w.driver
  strategy w := Driver.strategy w.driver
  init := pass Driver.init
  done := pass Driver.done
  setFrequency hz := pass (Driver.setFrequency hz)
  clock := clock
  sampleTdo := pass Driver.sampleTdo
  transfer input capture := Driver.transferByBits (pass Driver.sampleTdo) clock capture input
  setSignals mask value := pass (Driver.setSignals mask value)
  sampleSignal lines := pass (Driver.sampleSignal lines)
  flush := pass Driver.flush

end Logged

namespace Steady

variable {σ : Type} [Driver σ] (d : Steady σ)

theorem iterate_logged (k : Tick) (count : Nat) (w : Logged σ) :
    (fun w : Logged σ => (⟨d.step k w.driver, w.ticks ++ [k]⟩ : Logged σ))^[count] w =
      ⟨(d.step k)^[count] w.driver, w.ticks ++ List.replicate count k⟩ := by
  induction count generalizing w with
  | zero => simp
  | succ count ih =>
    rw [Function.iterate_succ_apply, ih, Function.iterate_succ_apply, List.append_assoc]
    rfl

/-- A steady driver that writes down its clocks is steady. -/
def logged : Steady (Logged σ) where
  step k w := ⟨d.step k w.driver, w.ticks ++ [k]⟩
  tdo w := d.tdo w.driver
  drive mask value w := ((d.drive mask value w.driver).1, { w with driver := (d.drive mask value w.driver).2 })
  sense lines w := ((d.sense lines w.driver).1, { w with driver := (d.sense lines w.driver).2 })
  settle w := { w with driver := d.settle w.driver }
  clock_eq tms tdi count w := by
    rw [iterate_logged]
    exact Action.runOn_bind_ok (Logged.runOn_pass (d.clock_eq tms tdi count w.driver)) _
  sampleTdo_eq w := Logged.runOn_pass (d.sampleTdo_eq w.driver)
  transfer_eq _ _ := rfl
  setSignals_eq mask value w := Logged.runOn_pass (d.setSignals_eq mask value w.driver)
  sampleSignal_eq lines w := Logged.runOn_pass (d.sampleSignal_eq lines w.driver)
  flush_eq w := Logged.runOn_pass (d.flush_eq w.driver)

theorem walk_logged (ticks : List Tick) (w : Logged σ) :
    d.logged.walk ticks w = ⟨d.walk ticks w.driver, w.ticks ++ ticks⟩ := by
  induction ticks generalizing w with
  | nil => simp [walk]
  | cons k ticks ih =>
    rw [walk, ih, walk, List.append_cons]
    rfl

theorem listen_logged (ticks : List Tick) (w : Logged σ) : d.logged.listen ticks w = d.listen ticks w.driver := by
  induction ticks generalizing w with
  | nil => rfl
  | cons k ticks ih => exact congrArg (d.tdo w.driver :: ·) (ih _)

theorem ticks_settle (count : Nat) (w : Logged σ) : (d.logged.settle^[count] w).ticks = w.ticks := by
  induction count generalizing w with
  | zero => rfl
  | succ count ih => exact ih (d.logged.settle w)

end Steady
end Jtag
