import Jtag.Proofs.Cable.Steady
import Jtag.Sim.Cable

/-! The simulated cable never fails: its driver moves by single clocks of the chain, and a sample of
    TDO only observes. -/

namespace Jtag

theorem Signals.trst_drive (levels : Signals) (level : Bool) :
    (levels.drive .trstLine (if level then .trstLine else .none)).trst = level := by
  cases level <;> simp [Signals.drive, Signals.trst, Signals.trstLine, Signals.none]

namespace Sim

/-! ### The test reset line -/

namespace Chain

theorem drive_low (c : Chain) :
    c.drive .trstLine .none = Chain.reset { c with signals := c.signals.drive .trstLine .none } := by
  rw [drive]
  exact if_neg (Bool.eq_false_iff.mp (c.signals.trst_drive false))

theorem drive_high (c : Chain) :
    c.drive .trstLine .trstLine = { c with signals := c.signals.drive .trstLine .trstLine } := by
  rw [drive]
  exact if_pos (c.signals.trst_drive true)

theorem drive_trstLine (c : Chain) (level : Bool) :
    let driven := c.drive .trstLine (if level then .trstLine else .none)
    driven.signals.trst = level ∧ driven.state = if level then c.state else .testLogicReset := by
  intro driven
  have htrst := c.signals.trst_drive level
  cases level with
  | false =>
    rw [show driven = _ from c.drive_low]
    exact ⟨htrst, rfl⟩
  | true =>
    rw [show driven = _ from c.drive_high]
    exact ⟨htrst, rfl⟩

/-- A pulse of the line resets the devices. -/
theorem drive_pulse (c : Chain) : (c.drive .trstLine .none).drive .trstLine .trstLine =
    ⟨c.devices.map Device.reset, .testLogicReset, (c.signals.drive .trstLine .none).drive .trstLine .trstLine,
      c.clocks⟩ := by
  rw [drive_low, drive_high]
  rfl

end Chain

/-! ### The driver -/

namespace Pod

/-- One clock of the chain. -/
def step (k : Tick) (p : Pod) : Pod := { p with chain := p.chain.clock k.tms k.tdi }

theorem iterate_step (tms tdi : Bool) (count : Nat) (p : Pod) :
    (step ⟨tms, tdi⟩)^[count] p = { p with chain := p.chain.clockTimes tms tdi count } := by
  induction count generalizing p with
  | zero => rfl
  | succ count ih => exact ih (step ⟨tms, tdi⟩ p)

/-- The simulated cable as a steady driver. -/
def steady : Steady Pod where
  step := step
  tdo p := p.chain.tdo
  drive mask value p := (p.chain.signals, { p with chain := p.chain.drive mask value })
  sense lines p := (p.chain.signals.allHigh lines, p)
  settle p := p
  clock_eq tms tdi count p := by
    rw [iterate_step]
    rfl
  sampleTdo_eq _ := rfl
  transfer_eq _ _ := rfl
  setSignals_eq _ _ _ := rfl
  sampleSignal_eq _ _ := rfl
  flush_eq _ := rfl

/-- The simulated cable holds nothing back. -/
theorem iterate_settle (count : Nat) (p : Pod) : steady.settle^[count] p = p := congrFun (Function.iterate_id count) p

/-- The controllers follow TMS as long as the reset line is released. -/
theorem walk_state {sim : Chain} (htrst : sim.signals.trst = true) (ticks : List Tick) (strategy : FlushStrategy) :
    (steady.walk ticks ⟨sim, strategy⟩).chain.state = ticks.foldl (fun s k => s.next k.tms) sim.state := by
  induction ticks generalizing sim with
  | nil => rfl
  | cons k ticks ih =>
    have hclock : (sim.clock k.tms k.tdi).state = sim.state.next k.tms ∧
        (sim.clock k.tms k.tdi).signals = sim.signals := by
      rw [Chain.clock, if_pos htrst]
      exact ⟨rfl, rfl⟩
    show (steady.walk ticks ⟨sim.clock k.tms k.tdi, strategy⟩).chain.state = _
    rw [ih (hclock.2 ▸ htrst), hclock.1]
    rfl

end Pod
end Sim
end Jtag
