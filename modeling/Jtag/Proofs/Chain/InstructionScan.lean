import Jtag.Proofs.Chain.Faces

/-! Scanning the instructions of all parts: every device latches the opcode of the part in its place, once,
    and hands the value out that every instruction register captures. -/

namespace Jtag

/-- A device behind a scan that brought `opcode` into its instruction register. -/
def Sim.Device.latch (d : Device) (opcode : Register) : Device :=
  { d with
    irShift := opcode.bits
    instruction := opcode.low64
    selected := d.selectionOf opcode.low64
    irUpdates := d.irUpdates + 1 }

namespace Chain

variable {c : Chain Sim.Pod} {sim : Sim.Chain} {exit : Exit} {instructions : List Instruction}

theorem runOn_checkInstructions {σ : Type} {c : Chain σ} {parts : List Part} (h : ∀ p ∈ parts, p.active?.isSome) (index : Nat) :
    (checkInstructions index parts).runOn c = (.ok (), c) := by
  induction parts generalizing index with
  | nil => rfl
  | cons p rest ih =>
    have hp : p.active?.isNone = false := by rw [Option.isNone_eq_false_iff]; exact h p List.mem_cons_self
    rw [checkInstructions, hp]
    exact ih (fun q hq => h q (List.mem_cons_of_mem p hq)) (index + 1)

theorem active_of_instructions {parts : List Part} (h : parts.map (·.activeInstruction?) = instructions.map some) :
    ∀ p ∈ parts, p.active?.isSome := by
  intro p hp
  obtain ⟨i, -, hi⟩ := List.mem_map.mp (h ▸ List.mem_map_of_mem hp)
  obtain ⟨index, hindex, -⟩ := Option.bind_eq_some_iff.mp hi.symm
  rw [hindex]
  rfl

theorem registers_instructions {parts : List Part} (h : parts.map (·.activeInstruction?) = instructions.map some) :
    parts.map Lane.instruction.registers? = (instructions.map fun i => (i.opcode, i.captured)).map some :=
  map_registers? (fun _ => ⟨rfl, rfl⟩) h

/-- Instructions that take over rows of their own lengths hold just these. -/
theorem captured_rows {rows : List (List Bool)} (h : instructions.map (·.opcode.length) = rows.map List.length) :
    (List.zipWith (fun r (i : Instruction) => i.capture r.bits)
      (List.zipWith (fun i bits => i.captured.overlay bits) instructions rows) instructions).map (·.captured.bits) =
        rows := by
  induction instructions generalizing rows with
  | nil => exact (List.map_eq_nil_iff.mp h.symm).symm
  | cons i instructions ih =>
    cases rows with
    | nil => rfl
    | cons bits rows =>
      obtain ⟨hbits, hrows⟩ := List.cons.inj h
      have hbits : bits.length = i.captured.bits.length := hbits.symm.trans i.captured_length.symm
      have hfilled : (i.captured.overlay bits).bits = bits := Bits.overlay_eq_of_length hbits
      have hcaptured : (i.capture (i.captured.overlay bits).bits).captured.bits = bits := by
        rw [hfilled]
        exact hfilled
      exact congrArg₂ List.cons hcaptured (ih hrows)

/-- What the parts of a chain hold of the instructions that came out last. -/
def capturedInstructions (c : Chain Sim.Pod) : List (Option (List Bool)) :=
  c.parts.map fun p => p.activeInstruction?.map (·.captured.bits)

/-- A scan of the instructions of all parts with a capture succeeds, and a flush lets every device latch the
    opcode of its own part, and that alone. With output the parts get what the devices captured: a one and
    then zeros, whatever the opcodes are. -/
theorem shiftInstructions_latches (h : c.Faces sim) (hstart : c.state.canStartCapture = true)
    (htrst : sim.signals.trst = true) (hparts : c.parts.map (·.activeInstruction?) = instructions.map some)
    (hne : instructions ≠ []) (hlengths : instructions.map (·.opcode.length) = sim.devices.map (·.irLength))
    (output : Bool) (hexit : exit = .idle ∨ exit = .update) :
    ∃ c₁ c₂ cable, (shiftInstructions output true exit).runOn c = (.ok (), c₁) ∧
      Chain.flush.runOn c₁ = (.ok (), c₂) ∧ c₂.cable? = some cable ∧
      cable.driver.chain.devices = List.zipWith (fun d i => d.latch i.opcode) sim.devices instructions ∧
      (∀ later ∈ [c₁, c₂], later.state = if exit = .idle then .runTestIdle else .scan .instruction .update) ∧
      (output = true → capturedInstructions c₁ =
        sim.devices.map fun d => some (true :: List.replicate (d.irLength - 1) false)) := by
  have hregisters := registers_instructions hparts
  have hlengths' : (instructions.map fun i => (i.opcode, i.captured)).map (·.1.length) =
      sim.devices.map fun d => (d.captured .instruction).length := by
    rw [List.map_map]
    exact hlengths.trans (List.map_congr_left fun d _ => d.length_irCapture.symm)
  obtain ⟨c₁, hrun, hfaces, hkept⟩ := h.shiftLane hstart htrst hregisters (List.map_eq_nil_iff.not.mpr hne) hlengths'
    output hexit
  obtain ⟨c₂, cable, hflush, hfaces₂, hstate₂, -, hcable, hdriver, -⟩ := hfaces.flush
  have hstate : c₁.state = if exit = .idle then .runTestIdle else .scan .instruction .update := by
    rw [hfaces.state]
    rcases hexit with rfl | rfl <;> rfl
  refine ⟨c₁, c₂, cable, ?_, hflush, hcable, ?_, ?_, ?_⟩
  · have hempty : c.parts.isEmpty = false := by
      cases hc : c.parts with
      | nil => exact absurd (List.map_eq_nil_iff.mp (hparts.symm.trans (congrArg _ hc))) hne
      | cons p rest => rfl
    rw [shiftInstructions, Action.runOn_bind_ok (Action.runOn_get c), hempty]
    exact (Action.runOn_bind_ok (runOn_checkInstructions (active_of_instructions hparts) 0) _).trans hrun
  · rw [hdriver, Sim.Chain.scanned, List.map_map, List.zipWith_map_right]
    rfl
  · intro later hlater
    rcases List.mem_pair.mp hlater with rfl | rfl
    · exact hstate
    · exact hstate₂.trans hstate
  · rintro rfl
    have hfilled : instructions.map (·.opcode.length) = (sim.devices.map (·.irCapture)).map List.length := by
      rw [hlengths, List.map_map]
      exact List.map_congr_left fun d _ => d.length_irCapture.symm
    have hstored := map_store activeInstruction?_store hparts
      (List.zipWith (fun i bits => i.captured.overlay bits) instructions (sim.devices.map (·.irCapture)))
    have hkept : c₁.parts = List.zipWith Lane.instruction.store
        (List.zipWith (fun i bits => i.captured.overlay bits) instructions (sim.devices.map (·.irCapture))) c.parts := by
      rw [hkept, if_pos rfl, List.zipWith_map_left, List.zipWith_map_right]
      rfl
    calc capturedInstructions c₁
        = (c₁.parts.map (·.activeInstruction?)).map (Option.map (·.captured.bits)) := by
          rw [List.map_map]
          rfl
      _ = (sim.devices.map (·.irCapture)).map some := by
          rw [hkept, hstored, List.map_map, ← captured_rows hfilled, List.map_map, captured_rows hfilled]
          rfl
      _ = sim.devices.map fun d => some (true :: List.replicate (d.irLength - 1) false) := List.map_map

/-- Two devices with instruction registers of two and of three bits. -/
theorem shiftInstructions_latches_two :
    let opcodes : List Register := [⟨[true, false], by decide⟩, ⟨[false, true, true], by decide⟩]
    let part (opcode : Register) : Part :=
      { Part.new none with instructions := [Instruction.new "TEST" opcode], active? := some 0 }
    let sim := resetSim [Sim.Device.new 2, Sim.Device.new 3]
    ∃ c c₁ c₂ cable, (c.Faces sim ∧ c.state.canStartCapture = true ∧ sim.signals.trst = true ∧
        c.parts = opcodes.map part) ∧
      (shiftInstructions true true .idle).runOn c = (.ok (), c₁) ∧ Chain.flush.runOn c₁ = (.ok (), c₂) ∧
      c₂.cable? = some cable ∧ cable.driver.chain.devices.map (fun d => (d.instruction, d.irUpdates)) = [(1, 1), (6, 1)] ∧
      c₂.state = .runTestIdle ∧ capturedInstructions c₁ = [some [true, false], some [true, false, false]] := by
  intro opcodes part sim
  obtain ⟨c, -, hfaces, -⟩ :=
    connect_faces Config.default [Sim.Device.new 2, Sim.Device.new 3] .combineTransfers
  have hfaces := hfaces.withParts (opcodes.map part)
  have hstart : c.state.canStartCapture = true := by rw [show c.state = _ from hfaces.state]; rfl
  have hparts : (opcodes.map part).map (·.activeInstruction?) = (opcodes.map (Instruction.new "TEST")).map some := rfl
  obtain ⟨c₁, c₂, cable, hrun, hflush, hcable, hdevices, hstate, hcaptured⟩ :=
    shiftInstructions_latches hfaces hstart (by decide) hparts (by decide) (by decide) true (.inl rfl)
  refine ⟨_, c₁, c₂, cable, ⟨hfaces, hstart, by decide, rfl⟩, hrun, hflush, hcable, ?_, hstate c₂ (by simp), ?_⟩
  · rw [hdevices]
    decide
  · rw [hcaptured rfl]
    decide

end Chain
end Jtag
