import Mathlib.Data.List.DropRight
import Jtag.Proofs.Chain.Tape

/-! Simulated devices as one shift register. The registers of a column are a single row of bits, whichever device
    holds them: what goes in pushes the row on, and what comes out is its front and then what went in. Without a
    device nothing drives TDO, and only zeros come out. -/

namespace Jtag

namespace Sim

open Tap (Column State)
open Jtag.Chain (passTicks enterTicks shiftTicks samples)

variable {column : Column} {devices : List Device} {sim : Chain} {bits : List Bool} {exit : Exit}

/-! ### A row of registers -/

theorem Device.row_update (column : Column) (d : Device) : (d.update column).row column = d.row column := by
  cases column with
  | instruction => rfl
  | data =>
    show d.updateDr.drShift = d.drShift
    unfold updateDr
    split <;> rfl

/-- Latching leaves the shift registers alone. -/
theorem path_ended (column : Column) (devices : List Device) (exit : Exit) :
    path column (ended column devices exit) = path column devices := by
  have hupdate : path column (devices.map fun d => d.update column) = path column devices := by
    rw [path, List.map_map]
    exact congrArg List.flatten (List.map_congr_left fun d _ => d.row_update column)
  cases exit with
  | shift => rfl
  | exit1 => rfl
  | idle => exact hupdate
  | update => exact hupdate

theorem path_passed (column : Column) (bits : List Bool) (exit : Exit) (sim : Chain) :
    path column (sim.passed column bits exit).devices = (sim.registerPath column ++ bits).drop bits.length := by
  rw [Chain.passed, path_ended, path_load]
  rw [List.length_drop, List.length_append, Nat.add_sub_cancel_right]
  rfl

/-! ### No devices -/

theorem Chain.clock_no_devices {sim : Chain} (h : sim.devices = []) (tms tdi : Bool) :
    (sim.clock tms tdi).devices = [] := by
  have hbefore : beforeClock sim.state tdi [] = [] := by
    unfold beforeClock
    split <;> rfl
  have hafter : afterClock (sim.state.next tms) [] = [] := by
    unfold afterClock
    split <;> rfl
  rw [clock]
  split
  · dsimp only
    rw [h, hbefore, hafter]
  · exact h

theorem Chain.tdo_no_devices {sim : Chain} (h : sim.devices = []) : sim.tdo = false := by
  unfold tdo
  rw [h]
  split <;> first | rfl | contradiction

/-- Clocks do not bring devices about, and TDO stays low. -/
theorem walk_no_devices (h : sim.devices = []) (ticks : List Tick) (strategy : FlushStrategy) :
    ∃ sim', Pod.steady.walk ticks ⟨sim, strategy⟩ = ⟨sim', strategy⟩ ∧ sim'.devices = [] ∧
      Pod.steady.listen ticks ⟨sim, strategy⟩ = List.replicate ticks.length false := by
  induction ticks generalizing sim with
  | nil => exact ⟨sim, rfl, h, rfl⟩
  | cons k ticks ih =>
    obtain ⟨sim', hwalk, hnone, hlisten⟩ := ih (sim.clock_no_devices h k.tms k.tdi)
    refine ⟨sim', hwalk, hnone, ?_⟩
    show sim.tdo :: Pod.steady.listen ticks ⟨sim.clock k.tms k.tdi, strategy⟩ = _
    rw [sim.tdo_no_devices h, hlisten]
    rfl

/-! ### Both -/

/-- What comes out of a row of registers while some bits go in. -/
def Chain.shiftedOut (column : Column) (bits : List Bool) (sim : Chain) : List Bool :=
  if sim.devices = [] then List.replicate bits.length false else (sim.registerPath column ++ bits).take bits.length

@[simp] theorem Chain.length_shiftedOut (column : Column) (bits : List Bool) (sim : Chain) :
    (sim.shiftedOut column bits).length = bits.length := by
  unfold shiftedOut
  split <;> simp

theorem Chain.getElem?_shiftedOut {k : Nat} (hk : k < bits.length) (column : Column) (sim : Chain) :
    (sim.shiftedOut column bits)[k]? =
      if sim.devices = [] then some false else (sim.registerPath column ++ bits)[k]? := by
  unfold shiftedOut
  split <;> simp [hk]

/-- Any shift pushes the row of registers on by the bits that go in. -/
theorem exists_pass (h : sim.Open column) (hrows : ∀ d ∈ sim.entered column, d.row column ≠ []) (hbits : bits ≠ [])
    (exit : Exit) (strategy : FlushStrategy) :
    ∃ sim', Pod.steady.walk (passTicks sim.state bits exit) ⟨sim, strategy⟩ = ⟨sim', strategy⟩ ∧
      path column sim'.devices = (sim.registerPath column ++ bits).drop bits.length ∧
      samples Pod.steady sim.state bits exit ⟨sim, strategy⟩ = sim.shiftedOut column bits := by
  by_cases hnone : sim.devices = []
  · obtain ⟨sim', hwalk, hnone', -⟩ := walk_no_devices hnone (passTicks sim.state bits exit) strategy
    obtain ⟨entered, henter, hentered, -⟩ := walk_no_devices hnone (enterTicks sim.state) strategy
    obtain ⟨-, -, -, hlisten⟩ := walk_no_devices hentered (shiftTicks exit.leavesShift bits) strategy
    have hpath : sim.registerPath column = [] := by
      rw [Chain.registerPath, Chain.entered, hnone]
      split <;> rfl
    refine ⟨sim', hwalk, ?_, ?_⟩
    · rw [hnone', hpath, List.nil_append, List.drop_length]
      rfl
    · rw [samples, henter, hlisten, Jtag.Chain.length_shiftTicks, Chain.shiftedOut, if_pos hnone]
  · have hne : sim.entered column ≠ [] := by
      rw [Chain.entered]
      split
      · exact List.map_eq_nil_iff.not.mpr hnone
      · exact hnone
    obtain ⟨hwalk, hsamples⟩ := walk_pass h (shows_of_forall hne hrows) hbits exit strategy
    refine ⟨_, hwalk, path_passed column bits exit sim, ?_⟩
    rw [hsamples, Chain.shiftedOut, if_neg hnone]

end Sim

namespace Chain

open Sim (path)

variable {c : Chain Sim.Pod} {sim : Sim.Chain} {column : Tap.Column}

theorem Faces.exchangeAny (h : c.Faces sim) (hopen : sim.Open column) (hrows : ∀ d ∈ sim.entered column, d.row column ≠ [])
    (input output : Register) (exit : Exit) :
    ∃ c' sim', (Chain.exchange input output exit).runOn c =
        (.ok (output.overlay (sim.shiftedOut column input.bits)), c') ∧ c'.Faces sim' ∧
      path column sim'.devices = (sim.registerPath column ++ input.bits).drop input.length := by
  obtain ⟨strategy, hdrives⟩ := h.drives
  obtain ⟨c', k, hrun, hdrives'⟩ := hdrives.exchange input output exit
  obtain ⟨sim', hwalk, hpath, hsamples⟩ := Sim.exists_pass hopen hrows input.bits_ne_nil exit strategy
  have hstate : c.tracker.state = sim.state := h.state
  rw [hstate, hsamples] at hrun
  rw [hstate, hwalk, Sim.Pod.iterate_settle] at hdrives'
  exact ⟨c', sim', hrun, h.follow (h.known_of_open hopen) hopen.released hwalk hdrives', hpath⟩

/-- Simulated devices are one shift register. Whatever is shifted in from the capture or the shift state of a column,
    the row of their registers ends up with the last bits of what it held and what went in, and the output gets the
    first bits of both, as far as it and the input reach; with no device at all it gets zeros. -/
theorem exchange_one_register (h : c.Faces sim) (hopen : sim.Open column)
    (hrows : ∀ d ∈ sim.entered column, d.row column ≠ []) (input output : Register) (exit : Exit) :
    let row := sim.registerPath column
    ∃ c₁ c₂ cable filled, (Chain.exchange input output exit).runOn c = (.ok filled, c₁) ∧
      Chain.flush.runOn c₁ = (.ok (), c₂) ∧ c₂.cable? = some cable ∧ cable.todo.toList = [] ∧
      path column cable.driver.chain.devices = (row ++ input.bits).rtake row.length ∧
      filled.length = output.length ∧
      ∀ k < output.length, filled.bits[k]? =
        if k < input.length then if sim.devices = [] then some false else (row ++ input.bits)[k]?
        else output.bits[k]? := by
  intro row
  obtain ⟨c₁, sim', h₁, k₁, hpath⟩ := h.exchangeAny hopen hrows input output exit
  obtain ⟨c₂, cable, h₂, -, -, -, hcable, hdevices, htodo⟩ := k₁.flush
  refine ⟨c₁, c₂, cable, _, h₁, h₂, hcable, htodo, ?_, Bits.length_overlay .., fun k hk => ?_⟩
  · have hlast : (row ++ input.bits).length - row.length = input.length := by
      rw [List.length_append, Nat.add_sub_cancel_left]
      rfl
    rw [hdevices, hpath, List.rtake, hlast]
  · show (Bits.overlay (sim.shiftedOut column input.bits) output.bits)[k]? = _
    split
    · rename_i hsent
      rw [Bits.getElem?_overlay_of_lt (by rwa [Sim.Chain.length_shiftedOut]) hk, Sim.Chain.getElem?_shiftedOut hsent]
    · rename_i hsent
      rw [Bits.getElem?_overlay_of_le (by rw [Sim.Chain.length_shiftedOut]; exact Nat.le_of_not_lt hsent)]

/-- Three bits go into the instruction registers of two devices, which hold five. -/
theorem exchange_one_register_two :
    let sim : Sim.Chain := ⟨[Sim.Device.new 2, Sim.Device.new 3], .scan .instruction .capture, .resetLines, 0⟩
    let input : Register := ⟨[true, true, false], by decide⟩
    let output : Register := ⟨[false, true, false, true], by decide⟩
    ∃ (c c₁ c₂ : Chain Sim.Pod) (cable : Cable Sim.Pod) (filled : Register), c.Faces sim ∧
      (Chain.exchange input output .idle).runOn c = (.ok filled, c₁) ∧ Chain.flush.runOn c₁ = (.ok (), c₂) ∧
      c₂.cable? = some cable ∧ path .instruction cable.driver.chain.devices = [false, false, true, true, false] ∧
      filled.bits[0]? = some true ∧ filled.bits[1]? = some false ∧ filled.bits[2]? = some true ∧
      filled.bits[3]? = some true := by
  intro sim input output
  have hfaces := faces_new Config.default sim .combineTransfers
  have hopen : sim.Open .instruction := ⟨by decide, .inl rfl⟩
  obtain ⟨c₁, c₂, cable, filled, h₁, h₂, hcable, -, hpath, -, hbits⟩ :=
    exchange_one_register hfaces hopen (by decide) input output .idle
  exact ⟨_, c₁, c₂, cable, filled, hfaces, h₁, h₂, hcable, hpath, hbits 0 (by decide), hbits 1 (by decide),
    hbits 2 (by decide), hbits 3 (by decide)⟩

/-- With no device a one is shifted in, but no one comes out. -/
theorem exchange_no_device :
    let sim : Sim.Chain := ⟨[], .scan .data .shift, .resetLines, 0⟩
    let one : Register := ⟨[true], by decide⟩
    let zero : Register := ⟨[false], by decide⟩
    ∃ c c' : Chain Sim.Pod, c.Faces sim ∧ sim.Open .data ∧ (∀ d ∈ sim.entered .data, d.row .data ≠ []) ∧
      (Chain.exchange one zero .shift).runOn c = (.ok zero, c') ∧
      zero.bits[0]? ≠ (sim.registerPath .data ++ one.bits)[0]? := by
  intro sim one zero
  have hfaces := faces_new Config.default sim .oneByOne
  have hopen : sim.Open .data := ⟨by decide, .inr rfl⟩
  obtain ⟨c', -, hrun, -, -⟩ := hfaces.exchangeAny hopen (by decide) one zero .shift
  exact ⟨_, c', hfaces, hopen, by decide, hrun, by decide⟩

end Chain
end Jtag
