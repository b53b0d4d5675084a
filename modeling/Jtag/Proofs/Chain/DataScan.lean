import Jtag.Proofs.Chain.Faces

/-! Scanning the data registers that the devices have selected. Every part gets what its own device
    captured, and the storage registers take over what their parts shift, so that the next scan brings
    it back. -/

namespace Jtag
namespace Sim.Device

/-- The selected data register keeps what is latched into it. -/
def stores (d : Device) : Bool :=
  match d.selected with
  | .data _ => true
  | _ => false

/-- A device behind a scan that brought `bits` into the selected data register. -/
def latchData (d : Device) (bits : List Bool) : Device := (d.withRow .data bits).update .data

variable (d : Device) (bits : List Bool)

theorem stored?_store_self (opcode : UInt64) : (d.store opcode bits).stored? opcode = some bits := by
  simp [stored?, store]

theorem stored?_store_of_ne {opcode other : UInt64} (h : other ≠ opcode) :
    (d.store opcode bits).stored? other = d.stored? other := by
  have hfirst : (opcode == other) = false := beq_false_of_ne h.symm
  have hrest : ∀ entry : UInt64 × List Bool,
      ((entry.1 != opcode) = true ∧ (entry.1 == other) = true) ↔ (entry.1 == other) = true := by
    intro entry
    simp only [bne_iff_ne, beq_iff_eq]
    exact ⟨And.right, fun hentry => ⟨hentry ▸ h, hentry⟩⟩
  simp only [stored?, store, List.find?_cons, hfirst, List.find?_filter, hrest, Bool.decide_eq_true]

theorem latchData_of_stores (h : d.stores = true) :
    d.latchData bits = { d.store d.instruction bits with drShift := bits } := by
  obtain ⟨irLength, hpos, idCode?, instructions, irShift, drShift, instruction, selected, storage, irUpdates⟩ := d
  cases selected with
  | bypass => exact absurd h Bool.false_ne_true
  | idCode => exact absurd h Bool.false_ne_true
  | data length => rfl

theorem latchData_of_not_stores (h : d.stores = false) : d.latchData bits = { d with drShift := bits } := by
  obtain ⟨irLength, hpos, idCode?, instructions, irShift, drShift, instruction, selected, storage, irUpdates⟩ := d
  cases selected with
  | bypass => rfl
  | idCode => rfl
  | data length => exact absurd h.symm Bool.false_ne_true

theorem drCapture_of_stores (h : d.stores = true) {held : List Bool} (hheld : d.stored? d.instruction = some held) :
    d.drCapture = held := by
  unfold stores at h
  unfold drCapture
  cases hselected : d.selected with
  | bypass => rw [hselected] at h; exact absurd h Bool.false_ne_true
  | idCode => rw [hselected] at h; exact absurd h Bool.false_ne_true
  | data length => exact congrArg (Option.getD · _) hheld

/-- A storage register captures what was latched into it, and other registers what they always do. -/
theorem drCapture_latchData : (d.latchData bits).drCapture = if d.stores then bits else d.drCapture := by
  cases h : d.stores with
  | false =>
    rw [d.latchData_of_not_stores bits h]
    rfl
  | true =>
    rw [d.latchData_of_stores bits h]
    have hheld := d.stored?_store_self bits d.instruction
    exact drCapture_of_stores { d.store d.instruction bits with drShift := bits } h hheld

end Sim.Device

namespace Chain

variable {c : Chain Sim.Pod} {sim : Sim.Chain} {exit : Exit} {parts : List Part} {registers : List DataRegister}
  {devices : List Sim.Device}

/-- The instructions of the parts select these registers, which shift and keep as many bits as the data
    registers that the devices have selected. -/
structure Fits (parts : List Part) (registers : List DataRegister) (devices : List Sim.Device) : Prop where
  active : parts.map (·.activeRegister?) = registers.map some
  input : registers.map (·.input.length) = devices.map (·.drCapture.length)
  output : registers.map (·.output.length) = devices.map (·.drCapture.length)

theorem Fits.selects (h : Fits parts registers devices) : ∀ p ∈ parts, p.activeRegister?.isSome := by
  intro p hp
  obtain ⟨register, -, hregister⟩ := List.mem_map.mp (h.active ▸ List.mem_map_of_mem hp)
  rw [← hregister]
  rfl

theorem runOn_checkDataRegisters {σ : Type} {c : Chain σ} (h : ∀ p ∈ parts, p.activeRegister?.isSome) (index : Nat) :
    (checkDataRegisters index parts).runOn c = (.ok (), c) := by
  induction parts generalizing index with
  | nil => rfl
  | cons p rest ih =>
    obtain ⟨register, hregister⟩ := Option.isSome_iff_exists.mp (h p List.mem_cons_self)
    obtain ⟨position, hposition, -⟩ := Option.bind_eq_some_iff.mp hregister
    obtain ⟨i, hi, hselected⟩ := Option.bind_eq_some_iff.mp hposition
    have hselects : i.register?.isNone = false := by rw [hselected]; rfl
    rw [checkDataRegisters, hi]
    dsimp only
    rw [hselects]
    exact ih (fun q hq => h q (List.mem_cons_of_mem p hq)) (index + 1)

theorem Fits.lane (h : Fits parts registers devices) :
    parts.map Lane.data.registers? =
      (registers.map fun register => (register.input, register.output)).map some :=
  map_registers? (fun _ => ⟨rfl, rfl⟩) h.active

/-- The registers of the parts behind a scan of these devices. -/
def filled (registers : List DataRegister) (devices : List Sim.Device) : List DataRegister :=
  List.zipWith (fun register d => { register with output := register.output.overlay d.drCapture }) registers devices

/-- The devices behind a scan of these registers. -/
def latched (devices : List Sim.Device) (registers : List DataRegister) : List Sim.Device :=
  List.zipWith (fun d register => d.latchData register.input.bits) devices registers

/-- What the parts of a chain hold of the data registers that came out last. -/
def capturedData (c : Chain Sim.Pod) : List (Option (List Bool)) :=
  c.parts.map fun p => p.activeRegister?.map (·.output.bits)

/-! ### One scan -/

theorem Faces.shiftData (h : c.Faces sim) (hstart : c.state.canStartCapture = true) (htrst : sim.signals.trst = true)
    (hfits : Fits c.parts registers sim.devices) (hexit : exit = .idle ∨ exit = .update) :
    ∃ c' sim', (Chain.shiftData true true exit).runOn c = (.ok (), c') ∧ c'.Faces sim' ∧
      c'.state.canStartCapture = true ∧ sim'.signals.trst = true ∧ sim'.devices = latched sim.devices registers ∧
      c'.parts.map (·.activeRegister?) = (filled registers sim.devices).map some := by
  cases hregisters : registers with
  | nil =>
    subst hregisters
    have hparts : c.parts = [] := List.map_eq_nil_iff.mp hfits.active
    have hdevices : sim.devices = [] := List.map_eq_nil_iff.mp hfits.input.symm
    refine ⟨c, sim, ?_, h, hstart, htrst, ?_, ?_⟩
    · rw [Chain.shiftData, Action.runOn_bind_ok (Action.runOn_get c), hparts]
      rfl
    · rw [hdevices]
      rfl
    · rw [hparts]
      rfl
  | cons register rest =>
    rw [← hregisters]
    have hne : registers ≠ [] := hregisters ▸ List.cons_ne_nil register rest
    obtain ⟨c', hrun, hfaces, hkept⟩ := h.shiftLane hstart htrst hfits.lane (List.map_eq_nil_iff.not.mpr hne)
      (by rw [List.map_map]; exact hfits.input) true hexit
    have hempty : c.parts.isEmpty = false := by
      cases hparts : c.parts with
      | nil => exact absurd (List.map_eq_nil_iff.mp (hfits.active.symm.trans (congrArg _ hparts))) hne
      | cons p parts => rfl
    refine ⟨c', _, ?_, hfaces, ?_, htrst, ?_, ?_⟩
    · rw [Chain.shiftData, Action.runOn_bind_ok (Action.runOn_get c), hempty]
      exact (Action.runOn_bind_ok (runOn_checkDataRegisters hfits.selects 0) _).trans hrun
    · rw [hfaces.state]
      rcases hexit with rfl | rfl <;> rfl
    · rw [Sim.Chain.scanned, List.map_map, List.zipWith_map_right]
      rfl
    · rw [hkept, if_pos rfl, map_store activeRegister?_store hfits.active, List.zipWith_map_left,
        zipWith_zipWith_self]
      rfl

/-! ### One scan after the other -/

theorem map_drCapture_latched (devices : List Sim.Device) (registers : List DataRegister) :
    (latched devices registers).map (·.drCapture) =
      List.zipWith (fun d register => if d.stores then register.input.bits else d.drCapture) devices registers := by
  rw [latched, List.map_zipWith]
  simp only [Sim.Device.drCapture_latchData]

/-- What is latched is as long as what was captured. -/
theorem map_length_latched (h : registers.map (·.input.length) = devices.map (·.drCapture.length)) :
    (latched devices registers).map (·.drCapture.length) = devices.map (·.drCapture.length) := by
  induction registers generalizing devices with
  | nil =>
    obtain rfl : devices = [] := List.map_eq_nil_iff.mp h.symm
    rfl
  | cons register registers ih =>
    cases devices with
    | nil => rfl
    | cons d devices =>
      obtain ⟨hlength, hrest⟩ := List.cons.inj h
      have hlatched : (d.latchData register.input.bits).drCapture.length = d.drCapture.length := by
        rw [Sim.Device.drCapture_latchData]
        split
        · exact hlength
        · rfl
      exact congrArg₂ List.cons hlatched (ih hrest)

theorem fits_latched (h : Fits parts registers devices) {first : List DataRegister}
    (hfirst : first.map (·.input.length) = devices.map (·.drCapture.length)) :
    Fits parts registers (latched devices first) := by
  have hlengths := map_length_latched hfirst
  exact ⟨h.active, h.input.trans hlengths.symm, h.output.trans hlengths.symm⟩

/-- A scan only changes the bits of the outputs. -/
theorem map_filled {f : DataRegister → Nat}
    (hf : ∀ (register : DataRegister) bits, f { register with output := register.output.overlay bits } = f register)
    (h : registers.map f = devices.map (·.drCapture.length)) : (filled registers devices).map f = registers.map f := by
  induction registers generalizing devices with
  | nil => rfl
  | cons register registers ih =>
    cases devices with
    | nil => exact absurd h (List.cons_ne_nil _ _)
    | cons d devices => exact congrArg₂ List.cons (hf register d.drCapture) (ih (List.cons.inj h).2)

theorem fits_filled (h : Fits parts registers devices) {later : List Part}
    (hlater : later.map (·.activeRegister?) = (filled registers devices).map some) :
    Fits later (filled registers devices) devices := by
  have hinput := map_filled (fun _ _ => rfl) h.input
  have houtput := map_filled (fun register bits => register.output.length_overlay bits) h.output
  exact ⟨hlater, hinput.trans h.input, houtput.trans h.output⟩

theorem capturedData_eq {c : Chain Sim.Pod} (h : c.parts.map (·.activeRegister?) = registers.map some) :
    capturedData c = registers.map fun register => some register.output.bits := by
  calc capturedData c
      = (c.parts.map (·.activeRegister?)).map (Option.map (·.output.bits)) := by
        rw [List.map_map]
        rfl
    _ = registers.map fun register => some register.output.bits := by
        rw [h, List.map_map]
        rfl

/-- Outputs of the right lengths hold the captures after a scan. -/
theorem filled_bits (h : registers.map (·.output.length) = devices.map (·.drCapture.length)) :
    (filled registers devices).map (·.output.bits) = devices.map (·.drCapture) := by
  induction registers generalizing devices with
  | nil =>
    obtain rfl : devices = [] := List.map_eq_nil_iff.mp h.symm
    rfl
  | cons register registers ih =>
    cases devices with
    | nil => exact absurd h (List.cons_ne_nil _ _)
    | cons d devices =>
      obtain ⟨hlength, hrest⟩ := List.cons.inj h
      exact congrArg₂ List.cons (Bits.overlay_eq_of_length hlength.symm) (ih hrest)

theorem storage_latched {i : Nat} {d : Sim.Device} {register : DataRegister} (hd : devices[i]? = some d)
    (hregister : registers[i]? = some register) :
    ∃ d', (latched devices registers)[i]? = some d' ∧
      (d.stores = true → d'.stored? d.instruction = some register.input.bits) ∧
      ∀ opcode, (d.stores = true → opcode ≠ d.instruction) → d'.stored? opcode = d.stored? opcode := by
  refine ⟨d.latchData register.input.bits, ?_, ?_, ?_⟩
  · rw [latched, List.getElem?_zipWith, hd, hregister]
  · intro hstores
    rw [d.latchData_of_stores _ hstores]
    exact d.stored?_store_self _ _
  · intro opcode hopcode
    cases hstores : d.stores with
    | false =>
      rw [d.latchData_of_not_stores _ hstores]
      rfl
    | true =>
      rw [d.latchData_of_stores _ hstores]
      exact d.stored?_store_of_ne _ (hopcode hstores)

/-- A scan of the data registers brings every part what its own device captured, and after a flush the storage
    registers hold what their parts shifted, and nothing else that is stored changed. So another scan finds in
    the storage registers what the first one shifted, whatever the parts shift this time. -/
theorem shiftData_round_trip (h : c.Faces sim) (hstart : c.state.canStartCapture = true)
    (htrst : sim.signals.trst = true) (hfits : Fits c.parts registers sim.devices)
    (hexit : exit = .idle ∨ exit = .update) :
    ∃ c₁ c₂ cable, (Chain.shiftData true true exit).runOn c = (.ok (), c₁) ∧ Chain.flush.runOn c₁ = (.ok (), c₂) ∧
      c₂.cable? = some cable ∧ capturedData c₁ = sim.devices.map (fun d => some d.drCapture) ∧
      (∀ (i : Nat) (d : Sim.Device) (register : DataRegister), sim.devices[i]? = some d → registers[i]? = some register →
        ∃ d', cable.driver.chain.devices[i]? = some d' ∧
          (d.stores = true → d'.stored? d.instruction = some register.input.bits) ∧
          ∀ opcode, (d.stores = true → opcode ≠ d.instruction) → d'.stored? opcode = d.stored? opcode) ∧
      ∀ later ∈ [c₁, c₂], Fits later.parts (filled registers sim.devices) sim.devices ∧
        ∀ parts₂ registers₂ exit₂, Fits parts₂ registers₂ sim.devices → exit₂ = .idle ∨ exit₂ = .update →
          ∃ c₃, (Chain.shiftData true true exit₂).runOn { later with parts := parts₂ } = (.ok (), c₃) ∧
            capturedData c₃ = List.zipWith
              (fun d register => some (if d.stores then register.input.bits else d.drCapture)) sim.devices registers := by
  obtain ⟨c₁, sim₁, hrun, hfaces, hstart₁, htrst₁, hdevices, hparts⟩ := h.shiftData hstart htrst hfits hexit
  obtain ⟨c₂, cable, hflush, hfaces₂, hstate₂, hparts₂, hcable, hdriver, -⟩ := hfaces.flush
  have hfilled := fits_filled hfits hparts
  refine ⟨c₁, c₂, cable, hrun, hflush, hcable, ?_, ?_, ?_⟩
  · have hbits := congrArg (List.map some) (filled_bits hfits.output)
    rw [List.map_map, List.map_map] at hbits
    rw [capturedData_eq hparts]
    exact hbits
  · intro i d register hd hregister
    rw [hdriver, hdevices]
    exact storage_latched hd hregister
  · intro later hlater
    have hagain : later.Faces sim₁ ∧ later.state.canStartCapture = true ∧ later.parts = c₁.parts := by
      rcases List.mem_pair.mp hlater with rfl | rfl
      · exact ⟨hfaces, hstart₁, rfl⟩
      · exact ⟨hfaces₂, hstate₂ ▸ hstart₁, hparts₂⟩
    obtain ⟨hfaces', hstart', hparts'⟩ := hagain
    refine ⟨hparts' ▸ hfilled, ?_⟩
    intro parts₂ registers₂ exit₂ hfits₂ hexit₂
    have hfits₂' : Fits parts₂ registers₂ sim₁.devices := by
      rw [hdevices]
      exact fits_latched hfits₂ hfits.input
    obtain ⟨c₃, sim₃, hrun₃, -, -, -, -, hparts₃⟩ := (hfaces'.withParts parts₂).shiftData hstart' htrst₁ hfits₂' hexit₂
    refine ⟨c₃, hrun₃, ?_⟩
    have hbits := congrArg (List.map some) (filled_bits hfits₂'.output)
    rw [hdevices, map_drCapture_latched, List.map_zipWith, List.map_map] at hbits
    rw [capturedData_eq hparts₃, hdevices]
    exact hbits

/-- A storage register of three bits that holds `101`, and a bypass register. -/
theorem shiftData_round_trip_two :
    let storing : Sim.Device :=
      { ((Sim.Device.new 2).withInstruction 2 (.data 3)).store 2 [true, false, true] with
        instruction := 2
        selected := .data 3 }
    let sim : Sim.Chain := ⟨[storing, Sim.Device.new 3], .runTestIdle, .resetLines, 0⟩
    let registers : List DataRegister :=
      [⟨"DATA", ⟨[false, true, true], by decide⟩, ⟨[false, false, false], by decide⟩⟩,
        ⟨"BYPASS", ⟨[true], by decide⟩, ⟨[false], by decide⟩⟩]
    let part (register : DataRegister) : Part :=
      { Part.new none with
        instructions := [{ Instruction.new "TEST" register.input with register? := some 0 }]
        registers := [register]
        active? := some 0 }
    ∃ c c₁ c₂ cable, (c.Faces sim ∧ c.state.canStartCapture = true ∧ sim.signals.trst = true ∧
        c.parts = registers.map part ∧ Fits c.parts registers sim.devices) ∧
      (Chain.shiftData true true .idle).runOn c = (.ok (), c₁) ∧ Chain.flush.runOn c₁ = (.ok (), c₂) ∧
      c₂.cable? = some cable ∧ capturedData c₁ = [some [true, false, true], some [false]] ∧
      ∃ c₃, (Chain.shiftData true true .update).runOn c₂ = (.ok (), c₃) ∧
        capturedData c₃ = [some [false, true, true], some [false]] := by
  intro storing sim registers part
  have hfaces := (faces_new Config.default sim .oneByOne).withParts (registers.map part)
  have hfits : Fits (registers.map part) registers sim.devices := ⟨by decide, by decide, by decide⟩
  obtain ⟨c₁, c₂, cable, hrun, hflush, hcable, hcaptured, -, hagain⟩ :=
    shiftData_round_trip hfaces rfl (by decide) hfits (.inl rfl)
  obtain ⟨hfits₂, hsecond⟩ := hagain c₂ (by simp)
  obtain ⟨c₃, hrun₃, hcaptured₃⟩ := hsecond c₂.parts _ .update hfits₂ (.inr rfl)
  refine ⟨_, c₁, c₂, cable, ⟨hfaces, rfl, by decide, rfl, hfits⟩, hrun, hflush, hcable, ?_, c₃, hrun₃, ?_⟩
  · rw [hcaptured]
    decide
  · rw [hcaptured₃]
    decide

end Chain
end Jtag
