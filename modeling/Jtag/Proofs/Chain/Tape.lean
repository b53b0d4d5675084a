import Jtag.Proofs.Chain.Faces

/-! A chain that goes on shifting. As long as the devices stay in the shift state of a column, everything that
    was in their path or went into it lies on one tape: the path holds its last bits, and what a shift brings
    back are the bits before the ones that it leaves in the path. -/

namespace Jtag

namespace Sim

open Tap (Column State)
open Jtag.Chain (passTicks enterTicks shiftTicks exitTicks samples)

variable {column : Column} {devices : List Device} {sim : Chain} {signals : Signals}

/-- The devices as the next clock in the shift state of a column finds them: those in the capture state will have
    captured before. -/
def Chain.entered (column : Column) (sim : Chain) : List Device :=
  if sim.state.isCapture then sim.devices.map fun d => d.withRow column (d.captured column) else sim.devices

/-- The register path of a column: what is, or will be, between TDI and TDO. -/
def Chain.registerPath (column : Column) (sim : Chain) : List Bool := path column (sim.entered column)

/-- The devices are in the capture or the shift state of a column, with nothing that holds them there. -/
structure Chain.Open (column : Column) (sim : Chain) : Prop where
  released : sim.signals.trst = true
  state : sim.state = .scan column .capture ∨ sim.state = .scan column .shift

theorem shows_of_forall (hne : devices ≠ []) (h : ∀ d ∈ devices, d.row column ≠ []) : Shows column devices := by
  obtain ⟨d, rest, rfl⟩ := List.exists_cons_of_ne_nil hne
  exact ⟨d, rest, rfl, h d List.mem_cons_self⟩

theorem walk_enterTicks (h : sim.Open column) (strategy : FlushStrategy) :
    Pod.steady.walk (enterTicks sim.state) ⟨sim, strategy⟩ =
      ⟨⟨sim.entered column, .scan column .shift, sim.signals, sim.clocks + (enterTicks sim.state).length⟩, strategy⟩ := by
  obtain ⟨devices, state, signals, clocks⟩ := sim
  rcases h.state with rfl | rfl
  · exact congrArg (Pod.mk · strategy) (Chain.clock_capture h.released devices false clocks)
  · rfl

/-- The devices after some bits went into their path. -/
def Chain.fed (column : Column) (bits : List Bool) (sim : Chain) : Chain :=
  { sim with
    devices := load column (sim.entered column) ((sim.registerPath column ++ bits).drop bits.length)
    state := .scan column .shift
    clocks := sim.clocks + (passTicks sim.state bits .shift).length }

/-- The devices at the end of a shift: they latch what they hold if the way on leads through the update state. -/
def ended (column : Column) (devices : List Device) : Exit → List Device
  | .shift | .exit1 => devices
  | .idle | .update => devices.map fun d => d.update column

theorem walk_end (htrst : signals.trst = true) (exit : Exit) (devices : List Device) (clocks : Nat)
    (strategy : FlushStrategy) :
    Pod.steady.walk (exitTicks exit)
        ⟨⟨devices, .scan column (if exit.leavesShift then .exit1 else .shift), signals, clocks⟩, strategy⟩ =
      ⟨⟨ended column devices exit, restState column exit, signals, clocks + (exitTicks exit).length⟩, strategy⟩ := by
  cases exit with
  | shift => rfl
  | exit1 => rfl
  | idle => exact walk_exitTicks htrst (.inl rfl) devices clocks strategy
  | update => exact walk_exitTicks htrst (.inr rfl) devices clocks strategy

/-- The devices behind a shift of some bits through their path. -/
def Chain.passed (column : Column) (bits : List Bool) (exit : Exit) (sim : Chain) : Chain :=
  { sim with
    devices := ended column (load column (sim.entered column) ((sim.registerPath column ++ bits).drop bits.length)) exit
    state := restState column exit
    clocks := sim.clocks + (passTicks sim.state bits exit).length }

/-- As many bits as go into the path leave it, first the ones that were there. -/
theorem walk_pass (h : sim.Open column) (hshows : Shows column (sim.entered column)) {bits : List Bool}
    (hbits : bits ≠ []) (exit : Exit) (strategy : FlushStrategy) :
    Pod.steady.walk (passTicks sim.state bits exit) ⟨sim, strategy⟩ = ⟨sim.passed column bits exit, strategy⟩ ∧
      samples Pod.steady sim.state bits exit ⟨sim, strategy⟩ =
        (sim.registerPath column ++ bits).take bits.length := by
  have hsplit : path column (sim.entered column) ++ bits =
      (sim.registerPath column ++ bits).take bits.length ++ (sim.registerPath column ++ bits).drop bits.length :=
    (List.take_append_drop ..).symm
  have hlength : ((sim.registerPath column ++ bits).take bits.length).length = bits.length :=
    List.length_take_of_le (by rw [List.length_append]; omega)
  obtain ⟨hwalk, hlisten⟩ := walk_shiftTicks h.released hshows exit.leavesShift hbits hsplit hlength
    (sim.clocks + (enterTicks sim.state).length) strategy
  constructor
  · have hclocks : (passTicks sim.state bits exit).length =
        (enterTicks sim.state).length + bits.length + (exitTicks exit).length := by
      rw [passTicks, List.length_append, List.length_append, Jtag.Chain.length_shiftTicks]
    rw [Chain.passed, hclocks, passTicks, Steady.walk_append, Steady.walk_append, walk_enterTicks h, hwalk,
      walk_end h.released, ← Nat.add_assoc, ← Nat.add_assoc]
  · rw [samples, walk_enterTicks h]
    exact hlisten

theorem Chain.Open.fed (h : sim.Open column) (bits : List Bool) : (sim.fed column bits).Open column :=
  ⟨h.released, .inr rfl⟩

theorem load_path (column : Column) (devices : List Device) : load column devices (path column devices) = devices := by
  induction devices with
  | nil => rfl
  | cons d rest ih => rw [path_cons, load_append rfl, ih, Device.withRow_row]

end Sim

namespace Chain

open Sim (load path Shows)

variable {c : Chain Sim.Pod} {sim : Sim.Chain} {column : Tap.Column} {devices : List Sim.Device} {tape : List Bool}

/-! ### One shift -/

theorem Faces.known_of_open (h : c.Faces sim) (hopen : sim.Open column) : c.state ≠ .unknown := by
  rw [h.state]
  rcases hopen.state with hs | hs <;> simp [hs]

theorem Faces.exchange (h : c.Faces sim) (hopen : sim.Open column) (hshows : Shows column (sim.entered column))
    (input output : Register) (exit : Exit) :
    ∃ c', (Chain.exchange input output exit).runOn c =
        (.ok (output.overlay ((sim.registerPath column ++ input.bits).take input.length)), c') ∧
      c'.Faces (sim.passed column input.bits exit) := by
  obtain ⟨strategy, hdrives⟩ := h.drives
  obtain ⟨c', k, hrun, hdrives'⟩ := hdrives.exchange input output exit
  obtain ⟨hwalk, hsamples⟩ := Sim.walk_pass hopen hshows input.bits_ne_nil exit strategy
  have hstate : c.tracker.state = sim.state := h.state
  rw [hstate, hsamples] at hrun
  rw [hstate, hwalk, Sim.Pod.iterate_settle] at hdrives'
  exact ⟨c', hrun, h.follow (h.known_of_open hopen) hopen.released hwalk hdrives'⟩

theorem Faces.shift (h : c.Faces sim) (hopen : sim.Open column) (hshows : Shows column (sim.entered column))
    (input : Register) :
    ∃ c', (Chain.shift input .shift).runOn c = (.ok (), c') ∧ c'.Faces (sim.fed column input.bits) := by
  obtain ⟨strategy, hdrives⟩ := h.drives
  obtain ⟨c', hrun, hdrives'⟩ := hdrives.deferShift input none .shift
  obtain ⟨hwalk, -⟩ := Sim.walk_pass hopen hshows input.bits_ne_nil .shift strategy
  have hstate : c.tracker.state = sim.state := h.state
  rw [hstate, hwalk] at hdrives'
  exact ⟨c', hrun, h.follow (h.known_of_open hopen) hopen.released hwalk hdrives'⟩

/-! ### The tape -/

/-- The chain is in the capture or the shift state of a column, and the path through its devices holds the last
    bits of `tape`. -/
structure Holds (c : Chain Sim.Pod) (column : Tap.Column) (devices : List Sim.Device) (tape : List Bool) : Prop where
  shows : Shows column devices
  reach : (path column devices).length ≤ tape.length
  faces : ∃ sim, c.Faces sim ∧ sim.Open column ∧
    sim.entered column = load column devices (tape.drop (tape.length - (path column devices).length))

theorem Faces.holds (h : c.Faces sim) (hopen : sim.Open column) (hshows : Shows column (sim.entered column)) :
    c.Holds column (sim.entered column) (sim.registerPath column) := by
  refine ⟨hshows, Nat.le_refl _, sim, h, hopen, ?_⟩
  rw [Sim.Chain.registerPath, Nat.sub_self, List.drop_zero, Sim.load_path]

theorem Holds.withWarnings (h : c.Holds column devices tape) (warnings : Array Warning) :
    ({ c with warnings } : Chain Sim.Pod).Holds column devices tape := by
  obtain ⟨sim, hfaces, hopen, hsim⟩ := h.faces
  exact ⟨h.shows, h.reach, sim, hfaces.same rfl rfl, hopen, hsim⟩

theorem length_held (hreach : (path column devices).length ≤ tape.length) :
    (tape.drop (tape.length - (path column devices).length)).length = (path column devices).length := by
  rw [List.length_drop, Nat.sub_sub_self hreach]

/-- What goes into the path is the next piece of the tape. -/
theorem entered_fed (hreach : (path column devices).length ≤ tape.length)
    (hsim : sim.entered column = load column devices (tape.drop (tape.length - (path column devices).length)))
    (bits : List Bool) :
    (sim.fed column bits).entered column =
      load column devices ((tape ++ bits).drop ((tape ++ bits).length - (path column devices).length)) := by
  -- The path drops as many bits at the front of its piece as go in, so the piece moves on by as many.
  have hlength := length_held hreach
  have hplace : (tape ++ bits).length - (path column devices).length =
      tape.length - (path column devices).length + bits.length := by
    rw [List.length_append]
    omega
  show load column (sim.entered column) ((path column (sim.entered column) ++ bits).drop bits.length) = _
  rw [hsim, Sim.load_load hlength, Sim.path_load hlength, hplace, ← List.drop_drop,
    List.drop_append_of_le_length (Nat.sub_le ..)]

theorem Holds.fed {c' : Chain Sim.Pod} {bits : List Bool} (h : c.Holds column devices tape) (hopen : sim.Open column)
    (hsim : sim.entered column = load column devices (tape.drop (tape.length - (path column devices).length)))
    (hfaces : c'.Faces (sim.fed column bits)) : c'.Holds column devices (tape ++ bits) := by
  refine ⟨h.shows, ?_, _, hfaces, hopen.fed bits, entered_fed h.reach hsim bits⟩
  rw [List.length_append]
  exact Nat.le_add_right_of_le h.reach

theorem Holds.shift (h : c.Holds column devices tape) (input : Register) :
    ∃ c', (Chain.shift input .shift).runOn c = (.ok (), c') ∧ c'.Holds column devices (tape ++ input.bits) := by
  obtain ⟨sim, hfaces, hopen, hsim⟩ := h.faces
  have hshows : Shows column (sim.entered column) := hsim ▸ h.shows.load (length_held h.reach)
  obtain ⟨c', hrun, hfaces'⟩ := hfaces.shift hopen hshows input
  exact ⟨c', hrun, h.fed hopen hsim hfaces'⟩

/-- What comes back lies as far behind on the tape as the path is long. -/
theorem Holds.exchange (h : c.Holds column devices tape) (input output : Register) :
    ∃ c', (Chain.exchange input output .shift).runOn c = (.ok (output.overlay
        (((tape ++ input.bits).drop (tape.length - (path column devices).length)).take input.length)), c') ∧
      c'.Holds column devices (tape ++ input.bits) := by
  obtain ⟨sim, hfaces, hopen, hsim⟩ := h.faces
  have hshows : Shows column (sim.entered column) := hsim ▸ h.shows.load (length_held h.reach)
  obtain ⟨c', hrun, hfaces'⟩ := hfaces.exchange hopen hshows input output .shift
  refine ⟨c', ?_, h.fed hopen hsim hfaces'⟩
  rw [hrun, Sim.Chain.registerPath, hsim, Sim.path_load (length_held h.reach),
    List.drop_append_of_le_length (Nat.sub_le ..)]

end Chain
end Jtag
