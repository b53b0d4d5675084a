import Jtag.Chain.Scan
import Jtag.Proofs.Scan.Split
import Jtag.Proofs.Sim.Scan

/-! What no clock changes about simulated devices, and what a reset makes of the rest. A device keeps its
    identification code and the length of its instruction register; behind five high clocks it shows them
    on its two paths. Scans that follow leave that as it is, whatever they shift. -/

namespace Jtag.Sim

open Tap (Column State)
open Jtag.Chain (Found scanTicks)

variable {column : Column} {d : Device} {devices : List Device} {bits : List Bool} {signals : Signals} {state : State}

namespace Device

/-- Something about a device that its shift registers have no part in. -/
def Rowless {α : Type} (f : Device → α) : Prop := ∀ column bits d, f (withRow column bits d) = f d

theorem Rowless.shift {α : Type} {f : Device → α} (h : Rowless f) (column : Column) (d : Device) (tdi : Bool) :
    f (d.shift column tdi).1 = f d := by
  cases hrow : d.row column with
  | nil => rw [d.shift_nil column hrow]
  | cons b bits =>
    rw [d.shift_cons column hrow]
    exact h ..

/-- What no clock and no reset changes about a device. -/
structure Lasting {α : Type} (f : Device → α) : Prop where
  rowless : Rowless f
  update : ∀ column d, f (update column d) = f d
  reset : ∀ d, f (reset d) = f d

/-- What a scan is to find of a device. -/
def found (d : Device) : Found := ⟨d.idCode?, d.irLength⟩

theorem lasting_found : Lasting found where
  rowless column bits d := by cases column <;> rfl
  update column d := by
    cases column with
    | instruction => rfl
    | data =>
      show d.updateDr.found = d.found
      unfold updateDr
      split <;> rfl
  reset _ := rfl

/-- The data register selected is the one that a reset selects. -/
def AsReset (d : Device) : Prop := d.selected = if d.idCode?.isSome then .idCode else .bypass

theorem asReset_reset (d : Device) : d.reset.AsReset := rfl

theorem AsReset.withRow (h : d.AsReset) (column : Column) (bits : List Bool) : (d.withRow column bits).AsReset := by
  cases column <;> exact h

theorem AsReset.update_data (h : d.AsReset) : d.update .data = d := by
  obtain ⟨irLength, hpos, idCode?, instructions, irShift, drShift, instruction, selected, storage, irUpdates⟩ := d
  cases idCode? <;> cases h <;> rfl

end Device

section
variable {α β : Type} {f : α → β} {l l' : List α}

theorem forall_of_map_eq {P : β → Prop} (h : l'.map f = l.map f) (hl : ∀ a ∈ l, P (f a)) : ∀ a ∈ l', P (f a) := by
  rw [← List.forall_mem_map] at hl ⊢
  rwa [h]

theorem ne_nil_of_map_eq (hne : l ≠ []) (h : l'.map f = l.map f) : l' ≠ [] := by
  rintro rfl
  exact hne (List.map_eq_nil_iff.mp h.symm)

end

/-! ### What devices show -/

/-- What a device shows in a column after a reset. -/
def entry : Column → Found → List Bool
  | .data, f => Scan.dataEntry f.idCode?
  | .instruction, f => Scan.instructionEntry f.irLength

theorem entry_ne_nil (column : Column) (f : Found) : entry column f ≠ [] := by
  cases column with
  | data => exact Scan.dataEntry_ne_nil f.idCode?
  | instruction => exact List.cons_ne_nil _ _

/-- The devices show in a column what they are: on the instruction path always, on the data path as long as
    the register is selected that a reset selects. -/
def Presents (column : Column) (devices : List Device) : Prop := column = .data → ∀ d ∈ devices, d.AsReset

theorem captured_eq_entry (h : column = .data → d.AsReset) : d.captured column = entry column d.found := by
  cases column with
  | instruction => rfl
  | data =>
    have hselected : d.selected = if d.idCode?.isSome then .idCode else .bypass := h rfl
    show d.drCapture = Scan.dataEntry d.idCode?
    unfold Device.drCapture
    rw [hselected]
    cases d.idCode? <;> rfl

theorem capturedPath_eq_entries (h : Presents column devices) :
    capturedPath column devices = (devices.map Device.found).flatMap (entry column) := by
  rw [capturedPath, List.flatMap_map, List.flatMap_def]
  exact congrArg List.flatten (List.map_congr_left fun d hd => captured_eq_entry fun hcolumn => h hcolumn d hd)

theorem presents_reset (column : Column) (devices : List Device) : Presents column (devices.map Device.reset) := by
  rintro - d hd
  obtain ⟨d₀, -, rfl⟩ := List.mem_map.mp hd
  exact d₀.asReset_reset

theorem Presents.shows (h : Presents column devices) (hne : devices ≠ []) :
    Shows column (devices.map fun d => d.withRow column (d.captured column)) := by
  obtain ⟨d, rest, rfl⟩ := List.exists_cons_of_ne_nil hne
  refine ⟨_, _, rfl, ?_⟩
  rw [Device.row_withRow, captured_eq_entry fun hcolumn => h hcolumn d List.mem_cons_self]
  exact entry_ne_nil column d.found

/-- The bits of an instruction path. -/
def instructionLength (devices : List Device) : Nat := Scan.total (devices.map (·.irLength))

theorem length_capturedPath_instruction (devices : List Device) :
    (capturedPath .instruction devices).length = instructionLength devices := by
  rw [capturedPath, ← List.flatMap_def, Scan.length_flatMap, instructionLength]
  exact congrArg Scan.total (List.map_congr_left fun d _ => d.length_irCapture)

/-! ### Scans -/

theorem mem_load (h : d ∈ load column devices bits) : ∃ d₀ ∈ devices, ∃ own, d = d₀.withRow column own := by
  induction devices generalizing bits with
  | nil => cases h
  | cons d₀ rest ih =>
    rcases List.mem_cons.mp h with rfl | h
    · exact ⟨d₀, List.mem_cons_self, _, rfl⟩
    · obtain ⟨d₁, hd₁, own, rfl⟩ := ih h
      exact ⟨d₁, List.mem_cons_of_mem _ hd₁, own, rfl⟩

section
variable {α : Type} {f : Device → α}

theorem Device.Rowless.load (h : Rowless f) (column : Column) (devices : List Device) (bits : List Bool) :
    (load column devices bits).map f = devices.map f := by
  induction devices generalizing bits with
  | nil => rfl
  | cons d rest ih => rw [Sim.load, List.map_cons, ih, h, List.map_cons]

theorem Device.Rowless.capture (h : Rowless f) (column : Column) (devices : List Device) :
    (devices.map fun d => d.withRow column (d.captured column)).map f = devices.map f := by
  rw [List.map_map]
  exact List.map_congr_left fun d _ => h column _ d

theorem Device.Lasting.updates (h : Lasting f) (column : Column) (devices : List Device) :
    (devices.map fun d => d.update column).map f = devices.map f := by
  rw [List.map_map]
  exact List.map_congr_left fun d _ => h.update column d

theorem Device.Lasting.pushed (h : Lasting f) (column : Column) (bits : List Bool) (devices : List Device) :
    (pushed column bits devices).map f = devices.map f := by
  rw [Sim.pushed, h.updates, h.rowless.load, h.rowless.capture]

end

theorem found_pushed (column : Column) (bits : List Bool) (devices : List Device) :
    (pushed column bits devices).map Device.found = devices.map Device.found :=
  Device.lasting_found.pushed column bits devices

theorem Presents.pushed (h : Presents column devices) (bits : List Bool) : Presents column (pushed column bits devices) := by
  rintro rfl d hd
  obtain ⟨d₁, hd₁, rfl⟩ := List.mem_map.mp hd
  obtain ⟨d₂, hd₂, own, rfl⟩ := mem_load hd₁
  obtain ⟨d₃, hd₃, rfl⟩ := List.mem_map.mp hd₂
  have hreset := ((h rfl d₃ hd₃).withRow .data (d₃.captured .data)).withRow .data own
  rw [hreset.update_data]
  exact hreset

theorem load_replicate (column : Column) (devices : List Device) (b : Bool) :
    load column devices (List.replicate (path column devices).length b) =
      devices.map fun d => d.withRow column (List.replicate (d.row column).length b) := by
  induction devices with
  | nil => rfl
  | cons d rest ih =>
    rw [path_cons, List.length_append, List.replicate_add, load_append List.length_replicate, ih]
    rfl

/-- Ones behind a path that is not longer than the zeros before them fill every instruction register. -/
theorem pushed_ones {length : Nat} (hshort : (capturedPath .instruction devices).length ≤ length) :
    pushed .instruction (List.replicate length false ++ List.replicate length true) devices =
      devices.map fun d => (d.withRow .instruction (List.replicate d.irLength true)).updateIr := by
  have hleft : (capturedPath .instruction devices ++ (List.replicate length false ++ List.replicate length true)).drop
      (List.replicate length false ++ List.replicate length true).length =
        List.replicate (path .instruction (devices.map fun d =>
          d.withRow .instruction (d.captured .instruction))).length true := by
    rw [path_captured, ← List.append_assoc, List.drop_append, List.drop_eq_nil_of_le (by simp; omega), List.nil_append,
      List.drop_replicate]
    congr 1
    simp
    omega
  rw [pushed, hleft, load_replicate, List.map_map, List.map_map]
  refine List.map_congr_left fun d _ => ?_
  have hrow : ((d.withRow .instruction (d.captured .instruction)).row .instruction).length = d.irLength := by
    rw [Device.row_withRow]
    exact Scan.length_instructionEntry d.irLength_pos
  show ((d.withRow .instruction _).withRow .instruction _).updateIr = _
  rw [hrow, Device.withRow_withRow]

/-- A device that latched ones holds the instruction of all ones, and bypass is selected. -/
structure Device.Bypassed (d : Device) : Prop where
  irShift : d.irShift = List.replicate d.irLength true
  instruction : d.instruction = d.allOnes
  selected : d.selected = .bypass

theorem Device.bypassed_updateIr (d : Device) :
    (d.withRow .instruction (List.replicate d.irLength true)).updateIr.Bypassed :=
  ⟨rfl, rfl, if_pos rfl⟩

/-! ### Clocks -/

section
variable {α : Type} {f : Device → α}

theorem Device.Rowless.shiftThrough (h : Rowless f) (column : Column) (devices : List Device) (tdi : Bool) :
    (Chain.shiftThrough (Device.shift column) devices tdi).1.map f = devices.map f := by
  induction devices with
  | nil => rfl
  | cons d rest ih => exact congrArg₂ List.cons (h.shift column d _) ih

theorem Device.Rowless.beforeClock (h : Rowless f) (state : State) (tdi : Bool) (devices : List Device) :
    (Chain.beforeClock state tdi devices).map f = devices.map f := by
  rcases state with _ | _ | _ | ⟨column, stage⟩ <;> try rfl
  cases stage <;> cases column <;> try rfl
  · exact h.capture .data devices
  · exact h.capture .instruction devices
  · exact h.shiftThrough .data devices tdi
  · exact h.shiftThrough .instruction devices tdi

theorem Device.Lasting.afterClock (h : Lasting f) (state : State) (devices : List Device) :
    (Chain.afterClock state devices).map f = devices.map f := by
  rcases state with _ | _ | _ | ⟨column, stage⟩ <;> try rfl
  · rw [Chain.afterClock, List.map_map]
    exact List.map_congr_left fun d _ => h.reset d
  · cases stage <;> cases column <;> try rfl
    · exact h.updates .data devices
    · exact h.updates .instruction devices

end

theorem Chain.clock_released (sim : Chain) (htrst : sim.signals.trst = true) (tms tdi : Bool) :
    sim.clock tms tdi = ⟨Chain.afterClock (sim.state.next tms) (Chain.beforeClock sim.state tdi sim.devices),
      sim.state.next tms, sim.signals, sim.clocks + 1⟩ := by
  rw [clock, if_pos htrst]

/-- With the reset line released the controllers follow TMS, and the devices stay what they are. -/
theorem walk_kept {sim : Chain} (htrst : sim.signals.trst = true) (ticks : List Tick) (strategy : FlushStrategy) :
    ∃ devices clocks, Pod.steady.walk ticks ⟨sim, strategy⟩ =
        ⟨⟨devices, ticks.foldl (fun s k => s.next k.tms) sim.state, sim.signals, clocks⟩, strategy⟩ ∧
      devices.map Device.found = sim.devices.map Device.found := by
  induction ticks generalizing sim with
  | nil => exact ⟨sim.devices, sim.clocks, rfl, rfl⟩
  | cons k ticks ih =>
    have hclock := sim.clock_released htrst k.tms k.tdi
    have htrst' : (sim.clock k.tms k.tdi).signals.trst = true := hclock ▸ htrst
    obtain ⟨devices, clocks, hwalk, hfound⟩ := ih htrst'
    refine ⟨devices, clocks, ?_, ?_⟩
    · show Pod.steady.walk ticks ⟨sim.clock k.tms k.tdi, strategy⟩ = _
      rw [hwalk, hclock]
      rfl
    · rw [hfound, hclock, Device.lasting_found.afterClock, Device.lasting_found.rowless.beforeClock]

/-! ### The reset -/

/-- A reset leads the controllers to Run-Test/Idle wherever they are, and resets the devices. -/
theorem walk_resetTicks {sim : Chain} (htrst : sim.signals.trst = true) (hknown : sim.state ≠ .unknown)
    (strategy : FlushStrategy) :
    ∃ (devices : List Device) (clocks : Nat), Pod.steady.walk Tap.resetTicks ⟨sim, strategy⟩ =
        ⟨⟨devices.map Device.reset, .runTestIdle, sim.signals, clocks⟩, strategy⟩ ∧
      devices.map Device.found = sim.devices.map Device.found := by
  -- Whatever the first four clocks lead to, the fifth enters Test-Logic-Reset.
  obtain ⟨devices, clocks, hwalk, hfound⟩ := walk_kept htrst (List.replicate 4 ⟨true, false⟩) strategy
  have hlast : ((List.replicate 4 (⟨true, false⟩ : Tick)).foldl (fun s k => s.next k.tms) sim.state).next true =
      .testLogicReset := Tap.Tracker.iterate_next_of_five hknown 0
  generalize (List.replicate 4 (⟨true, false⟩ : Tick)).foldl (fun s k => s.next k.tms) sim.state = state at hwalk hlast
  have hticks : Tap.resetTicks = List.replicate 4 ⟨true, false⟩ ++ [⟨true, false⟩, ⟨false, false⟩] := rfl
  have hhigh := Chain.clock_released ⟨devices, state, sim.signals, clocks⟩ htrst true false
  dsimp only at hhigh
  rw [hlast] at hhigh
  refine ⟨Chain.beforeClock state false devices, clocks + 2, ?_, ?_⟩
  · rw [hticks, Steady.walk_append, hwalk]
    show (⟨Chain.clock (Chain.clock _ true false) false false, strategy⟩ : Pod) = _
    rw [hhigh]
    exact congrArg (Pod.mk · strategy) (Chain.clock_rest htrst (fun _ => rfl) (fun _ => rfl) _ (clocks + 1))
  · rw [Device.lasting_found.rowless.beforeClock, hfound]

end Jtag.Sim
