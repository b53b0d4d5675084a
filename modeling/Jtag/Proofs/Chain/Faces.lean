import Jtag.Proofs.Sim.Scan

/-! A chain in front of simulated devices. Whatever is still deferred counts as done: the devices are the
    ones behind it. A scan of all parts with a capture changes them as one scan of the path does, and with
    output every part gets what its own device captured. -/

namespace Jtag
namespace Chain

/-- The cable of the chain leads to `sim`, its tracker knows the state of the controllers, and no results
    are left to be picked up. -/
structure Faces (c : Chain Sim.Pod) (sim : Sim.Chain) : Prop where
  drives : ∃ strategy, c.Drives Sim.Pod.steady c.tracker c.parts ⟨⟨sim, strategy⟩, []⟩
  consistent : c.tracker.Consistent
  state : c.state = sim.state

variable {c : Chain Sim.Pod} {sim : Sim.Chain} {lane : Lane} {exit : Exit} {registers : List (Register × Register)}

/-- The parts, the limits and the warnings of a chain do not matter to what it faces. -/
theorem Faces.same {c' : Chain Sim.Pod} (h : c.Faces sim) (hcable : c'.cable? = c.cable?)
    (htracker : c'.tracker = c.tracker) : c'.Faces sim := by
  obtain ⟨strategy, ⟨cable, hc, hstands⟩, -, -⟩ := h.drives
  refine ⟨⟨strategy, ⟨cable, hcable.trans hc, hstands⟩, rfl, rfl⟩, ?_, ?_⟩
  · rw [htracker]
    exact h.consistent
  · exact (congrArg Tap.Tracker.state htracker).trans h.state

theorem Faces.withParts (h : c.Faces sim) (parts : List Part) : ({ c with parts } : Chain Sim.Pod).Faces sim :=
  h.same rfl rfl

/-- The tracker and the controllers go through the same states. -/
theorem Faces.state_follow (h : c.Faces sim) (hknown : c.state ≠ .unknown) (htrst : sim.signals.trst = true)
    (ticks : List Tick) (strategy : FlushStrategy) :
    (c.tracker.follow ticks).state = (Sim.Pod.steady.walk ticks ⟨sim, strategy⟩).chain.state := by
  rw [Sim.Pod.walk_state htrst, h.consistent.state_follow hknown, ← h.state]
  rfl

/-- Clocks that the tracker follows lead the chain to the devices behind them. -/
theorem Faces.follow {c' : Chain Sim.Pod} {ticks : List Tick} {strategy : FlushStrategy} {parts : List Part}
    (h : c.Faces sim) (hknown : c.state ≠ .unknown) (htrst : sim.signals.trst = true) {sim' : Sim.Chain}
    (hwalk : Sim.Pod.steady.walk ticks ⟨sim, strategy⟩ = ⟨sim', strategy⟩)
    (hdrives : c'.Drives Sim.Pod.steady (c.tracker.follow ticks) parts ⟨⟨sim', strategy⟩, []⟩) : c'.Faces sim' := by
  have hstate := h.state_follow hknown htrst ticks strategy
  rw [hwalk] at hstate
  refine ⟨⟨strategy, hdrives.cable, rfl, rfl⟩, ?_, ?_⟩
  · rw [hdrives.tracker]
    exact h.consistent.follow ticks
  · rw [Chain.state, hdrives.tracker]
    exact hstate

theorem Faces.canStartCapture (h : c.Faces sim) (hstart : sim.state.canStartCapture = true) :
    c.state.canStartCapture = true := h.state.symm ▸ hstart

/-- A capture brings the controllers to the capture state, and the devices stay as they are. -/
theorem Faces.capture (h : c.Faces sim) (hstart : sim.state.canStartCapture = true) (htrst : sim.signals.trst = true)
    (column : Tap.Column) :
    ∃ (c' : Chain Sim.Pod) (clocks : Nat), (Chain.capture column).runOn c = (.ok (), c') ∧
      c'.Faces ⟨sim.devices, .scan column .capture, sim.signals, clocks⟩ := by
  obtain ⟨strategy, hdrives⟩ := h.drives
  obtain ⟨c', hrun, hdrives'⟩ := hdrives.capture column
  have hknown : c.state ≠ .unknown := known_of_canStartCapture (h.canStartCapture hstart)
  have hwalk := Sim.walk_captureTicks htrst hstart column sim.devices sim.clocks strategy
  rw [hwalk] at hdrives'
  exact ⟨c', _, hrun, h.follow hknown htrst hwalk hdrives'⟩

/-! ### Taking over a simulated cable -/

/-- The devices behind a pulse of the test reset line and the clocks of a reset. -/
def pulsed (sim : Sim.Chain) : Sim.Chain :=
  ⟨sim.devices.map Sim.Device.reset, .runTestIdle, (sim.signals.drive .trstLine .none).drive .trstLine .trstLine,
    sim.clocks + (Tap.resetClocks + 1)⟩

theorem pulsed_released (sim : Sim.Chain) : (pulsed sim).signals.trst = true := Signals.trst_drive _ true

theorem clock_pulsed (sim : Sim.Chain) :
    (((sim.drive .trstLine .none).drive .trstLine .trstLine).clockTimes true false Tap.resetClocks).clock false false =
      pulsed sim := by
  have hreleased := pulsed_released sim
  have hreset : (sim.devices.map Sim.Device.reset).map Sim.Device.reset = sim.devices.map Sim.Device.reset := List.map_map
  have hclock : ∀ clocks, (⟨sim.devices.map Sim.Device.reset, .testLogicReset, (pulsed sim).signals, clocks⟩ : Sim.Chain).clock
      true false = ⟨sim.devices.map Sim.Device.reset, .testLogicReset, (pulsed sim).signals, clocks + 1⟩ := by
    intro clocks
    rw [Sim.Chain.clock, if_pos hreleased]
    exact congrArg (Sim.Chain.mk · _ _ _) hreset
  rw [sim.drive_pulse, show (sim.signals.drive .trstLine .none).drive .trstLine .trstLine = (pulsed sim).signals from rfl]
  simp only [Tap.resetClocks, Sim.Chain.clockTimes, hclock]
  exact Sim.Chain.clock_rest hreleased (fun _ => rfl) (fun _ => rfl) _ _

/-- A reset by the line leads the devices to Run-Test/Idle, whatever was known of them. -/
theorem Drives.trstReset {t : Tap.Tracker} {parts : List Part} {strategy : FlushStrategy}
    (h : c.Drives Sim.Pod.steady t parts ⟨⟨sim, strategy⟩, []⟩) :
    ∃ c', Chain.trstReset.runOn c = (.ok (), c') ∧ c'.Faces (pulsed sim) ∧ c'.parts = parts := by
  obtain ⟨c₁, h₁, k₁⟩ := h.setTrst false rfl
  obtain ⟨c₂, h₂, k₂⟩ := k₁.setTrst true rfl
  obtain ⟨c₃, h₃, k₃⟩ := k₂.clock true false Tap.resetClocks
  obtain ⟨c₄, h₄, k₄⟩ := k₃.clock false false 1
  have htracker : c₄.tracker = .ofState .runTestIdle := by
    rw [k₄.tracker, ← Tap.Tracker.follow_append]
    exact Tap.Tracker.follow_resetTicks _
  refine ⟨c₄, ?_, ⟨⟨strategy, ?_, rfl, rfl⟩, ?_, congrArg Tap.Tracker.state htracker⟩, k₄.parts⟩
  · exact (Action.runOn_bind_ok h₁ _).trans ((Action.runOn_bind_ok h₂ _).trans ((Action.runOn_bind_ok h₃ _).trans h₄))
  · rw [← clock_pulsed]
    exact k₄.cable
  · rw [htracker]
    exact Tap.Tracker.consistent_ofState .runTestIdle

/-- The devices behind the reset that follows a connection. -/
def resetSim (devices : List Sim.Device) : Sim.Chain :=
  ⟨devices.map Sim.Device.reset, .runTestIdle, .resetLines, Tap.resetClocks + 1⟩

theorem pulsed_new (devices : List Sim.Device) : pulsed (.new devices) = resetSim devices := by
  have hsignals : (Signals.resetLines.drive .trstLine .none).drive .trstLine .trstLine = .resetLines := by decide
  rw [pulsed, resetSim, Sim.Chain.new, hsignals, Nat.zero_add]

/-- Taking over a simulated cable succeeds, and the chain faces its devices, reset. -/
theorem connect_faces (config : Config) (devices : List Sim.Device) (strategy : FlushStrategy) :
    ∃ c, (Chain.connect (Sim.Pod.new devices strategy) .ample).runOn (Chain.new config) = (.ok (), c) ∧
      c.Faces (resetSim devices) ∧ c.parts = [] := by
  have hstands := Cable.stands_new Sim.Pod.steady (Sim.Pod.new devices strategy) strategy
    (Memory.grants_ample (max config.queue.growth 1))
  have hnew : Drives Sim.Pod.steady
      { Chain.new config with cable? := some (Cable.new (Sim.Pod.new devices strategy) config.queue .ample) }
      .fresh [] ⟨Sim.Pod.new devices strategy, []⟩ := ⟨⟨_, rfl, hstands⟩, rfl, rfl⟩
  rw [← pulsed_new]
  exact hnew.trstReset

/-- A chain that just got a cable with nothing deferred, and knows the state of the controllers. -/
theorem faces_new (config : Config) (sim : Sim.Chain) (strategy : FlushStrategy) :
    ({ Chain.new config with
      cable? := some (Cable.new ⟨sim, strategy⟩ config.queue .ample)
      tracker := .ofState sim.state } : Chain Sim.Pod).Faces sim :=
  ⟨⟨strategy, ⟨_, rfl, Cable.stands_new Sim.Pod.steady _ strategy (Memory.grants_ample _)⟩, rfl, rfl⟩,
    Tap.Tracker.consistent_ofState sim.state, rfl⟩

/-! ### Outputs -/

theorem laneOutputs_flatten {rows : List (List Bool)} (h : rows.map List.length = registers.map (·.1.length)) :
    laneOutputs registers rows.flatten = List.zipWith (fun r bits => r.2.overlay bits) registers rows := by
  induction registers generalizing rows with
  | nil => rfl
  | cons first registers ih =>
    obtain ⟨input, output⟩ := first
    obtain ⟨own, others, rfl⟩ : ∃ own others, rows = own :: others := by
      cases rows with
      | nil => exact absurd h (List.cons_ne_nil _ _).symm
      | cons own others => exact ⟨own, others, rfl⟩
    obtain ⟨hown, hothers⟩ := List.cons.inj h
    have hown : own.length = input.length := hown
    rw [List.flatten_cons, laneOutputs, List.take_left' hown, List.drop_left' hown, ih hothers]
    rfl

/-! ### Scans of all parts -/

theorem Faces.shiftLane (h : c.Faces sim) (hstart : c.state.canStartCapture = true) (htrst : sim.signals.trst = true)
    (hregisters : c.parts.map lane.registers? = registers.map some) (hne : registers ≠ [])
    (hlengths : registers.map (·.1.length) = sim.devices.map fun d => (d.captured lane.column).length)
    (output : Bool) (hexit : Sim.Latches exit) :
    ∃ c', (Chain.shiftLane lane output true exit).runOn c = (.ok (), c') ∧
      c'.Faces (sim.scanned lane.column exit (registers.map (·.1.bits))) ∧
      c'.parts = if output then
          List.zipWith lane.store
            (List.zipWith (fun r d => r.2.overlay (d.captured lane.column)) registers sim.devices) c.parts
        else c.parts := by
  obtain ⟨strategy, hdrives⟩ := h.drives
  have hknown := known_of_canStartCapture hstart
  have hstart' : sim.state.canStartCapture = true := h.state ▸ hstart
  have hcapture := state_follow_captureTicks h.consistent hstart lane.column
  have hrows : (registers.map (·.1.bits)).map List.length =
      sim.devices.map fun d => (d.captured lane.column).length := by
    rw [List.map_map]
    exact hlengths
  have hpos : ∀ bits ∈ registers.map (·.1.bits), bits ≠ [] := by
    intro bits hbits
    obtain ⟨r, -, rfl⟩ := List.mem_map.mp hbits
    exact r.1.bits_ne_nil
  obtain ⟨hwalk, hsamples⟩ := Sim.walk_scan htrst hstart' hrows (List.map_eq_nil_iff.not.mpr hne) hpos hexit strategy
  obtain ⟨c', k, hrun, hdrives'⟩ := hdrives.shiftLane hregisters hne true (congrArg Tap.State.isShift hcapture) output exit
  have hstream : stream registers = (registers.map (·.1.bits)).flatten := rfl
  have hlead : leadTicks true lane.column = captureTicks lane.column := if_pos rfl
  rw [hlead, hcapture, ← scanTicks, hstream, hwalk, hsamples, Sim.Pod.iterate_settle] at hdrives'
  have hcaptured : (sim.devices.map (·.captured lane.column)).map List.length = registers.map (·.1.length) := by
    rw [List.map_map]
    exact hlengths.symm
  rw [Sim.capturedPath, laneOutputs_flatten hcaptured, List.zipWith_map_right] at hdrives'
  exact ⟨c', hrun, h.follow hknown htrst hwalk hdrives', hdrives'.parts⟩

/-- A flush brings the devices themselves to where the chain says they are. -/
theorem Faces.flush (h : c.Faces sim) :
    ∃ c' cable, Chain.flush.runOn c = (.ok (), c') ∧ c'.Faces sim ∧ c'.state = c.state ∧ c'.parts = c.parts ∧
      c'.cable? = some cable ∧ cable.driver.chain = sim ∧ cable.todo.toList = [] := by
  obtain ⟨strategy, hdrives⟩ := h.drives
  obtain ⟨c', cable, hrun, hdrives', hcable, hdriver, htodo⟩ := hdrives.flush
  have hstate : c'.state = c.state := congrArg Tap.Tracker.state hdrives'.tracker
  refine ⟨c', cable, hrun, ⟨⟨strategy, hdrives'.cable, rfl, rfl⟩, ?_, hstate.trans h.state⟩, hstate, hdrives'.parts,
    hcable, congrArg Sim.Pod.chain hdriver, htodo⟩
  rw [hdrives'.tracker]
  exact h.consistent

end Chain
end Jtag
