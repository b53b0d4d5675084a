import Jtag.Proofs.Cable.Logged
import Jtag.Proofs.Chain.DataScan
import Jtag.Proofs.Chain.InstructionScan

/-! A scan of all parts is a scan of one register: the one that holds what all parts shift in a row. The driver
    gets the same clocks for both, and what the parts keep are the slices of what the one register brings back. -/

namespace Jtag
namespace Chain

variable {σ : Type} [Driver σ] {d : Steady σ} {c : Chain σ} {t : Tap.Tracker} {parts : List Part} {s : σ}
  {column : Tap.Column} {registers : List (Register × Register)} {exit : Exit}

/-! ### The two ways to scan -/

/-- What the parts shift in a column. -/
def Lane.of : Tap.Column → Lane
  | .data => .data
  | .instruction => .instruction

/-- A scan of what all parts shift in a column. -/
def scanParts (column : Tap.Column) (output capturing : Bool) (exit : Exit) : ChainAction σ Unit :=
  match column with
  | .data => shiftData output capturing exit
  | .instruction => shiftInstructions output capturing exit

/-- A scan of one register, which brings something back if there is a register to keep it in. -/
def scanRegister (column : Tap.Column) (input : Register) (output? : Option Register) (capturing : Bool) (exit : Exit) :
    ChainAction σ (Option Register) := do
  if capturing then capture column
  match output? with
  | none =>
    shift input exit
    return none
  | some output => return some (← exchange input output exit)

theorem registers?_of_mem (h : parts.map (Lane.of column).registers? = registers.map some) {p : Part} (hp : p ∈ parts) :
    ∃ r ∈ registers, (Lane.of column).registers? p = some r := by
  obtain ⟨r, hr, hregisters⟩ := List.mem_map.mp (h ▸ List.mem_map_of_mem hp)
  exact ⟨r, hr, hregisters.symm⟩

theorem runOn_scanParts (h : c.parts.map (Lane.of column).registers? = registers.map some) (hne : c.parts ≠ [])
    (output capturing : Bool) (exit : Exit) :
    (scanParts column output capturing exit).runOn c = (shiftLane (Lane.of column) output capturing exit).runOn c := by
  have hempty : c.parts.isEmpty = false := by simpa using hne
  cases column with
  | data =>
    have hselects : ∀ p ∈ c.parts, p.activeRegister?.isSome := by
      intro p hp
      obtain ⟨r, -, hr⟩ := registers?_of_mem h hp
      obtain ⟨register, hregister, -⟩ := Option.map_eq_some_iff.mp (Lane.registers?_eq_some.mp hr).1
      rw [hregister]
      rfl
    rw [scanParts, shiftData, Action.runOn_bind_ok (Action.runOn_get c), hempty]
    exact Action.runOn_bind_ok (runOn_checkDataRegisters hselects 0) _
  | instruction =>
    have hactive : ∀ p ∈ c.parts, p.active?.isSome := by
      intro p hp
      obtain ⟨r, -, hr⟩ := registers?_of_mem h hp
      obtain ⟨i, hi, -⟩ := Option.map_eq_some_iff.mp (Lane.registers?_eq_some.mp hr).1
      obtain ⟨index, hindex, -⟩ := Option.bind_eq_some_iff.mp hi
      rw [hindex]
      rfl
    rw [scanParts, shiftInstructions, Action.runOn_bind_ok (Action.runOn_get c), hempty]
    exact Action.runOn_bind_ok (runOn_checkInstructions hactive 0) _

/-- An instruction captures as many bits as its opcode has. -/
theorem lengths_equal (h : parts.map (Lane.of column).registers? = registers.map some)
    (hequal : column = .data → ∀ r ∈ registers, r.2.length = r.1.length) : ∀ r ∈ registers, r.2.length = r.1.length := by
  cases column with
  | data => exact hequal rfl
  | instruction =>
    intro r hr
    obtain ⟨p, -, hp⟩ := List.mem_map.mp (h ▸ List.mem_map_of_mem hr)
    obtain ⟨hopcode, hcaptured⟩ := Lane.registers?_eq_some.mp hp
    obtain ⟨i, hi, hi₁⟩ := Option.map_eq_some_iff.mp hopcode
    obtain ⟨i', hi', hi₂⟩ := Option.map_eq_some_iff.mp hcaptured
    obtain rfl : i = i' := Option.some.inj (hi.symm.trans hi')
    exact hi₁ ▸ hi₂ ▸ i.captured_length

/-! ### What the parts keep -/

theorem flatMap_laneOutputs {samples : List Bool} (hequal : ∀ r ∈ registers, r.2.length = r.1.length)
    (hsamples : samples.length = (stream registers).length) :
    (laneOutputs registers samples).flatMap (·.bits) = samples ∧
      (laneOutputs registers samples).map (·.length) = registers.map (·.2.length) := by
  induction registers generalizing samples with
  | nil => exact ⟨(List.eq_nil_of_length_eq_zero hsamples).symm, rfl⟩
  | cons first rest ih =>
    obtain ⟨input, output⟩ := first
    have hlength : samples.length = input.length + (stream rest).length := hsamples.trans List.length_append
    have hown : (samples.take input.length).length = output.bits.length :=
      (List.length_take_of_le (by omega)).trans (hequal (input, output) List.mem_cons_self).symm
    have hothers : (samples.drop input.length).length = (stream rest).length := by
      rw [List.length_drop, hlength, Nat.add_sub_cancel_left]
    obtain ⟨hbits, hlengths⟩ := ih (fun r hr => hequal r (List.mem_cons_of_mem _ hr)) hothers
    constructor
    · have hoverlay : (output.overlay (samples.take input.length)).bits = samples.take input.length :=
        Bits.overlay_eq_of_length hown
      rw [laneOutputs, List.flatMap_cons, hoverlay, hbits, List.take_append_drop]
    · rw [laneOutputs, List.map_cons, hlengths, Register.length_overlay, List.map_cons]

/-- A part holds the register that it is given, if it is as long as the one before. -/
theorem Lane.output_store {p : Part} {input output r : Register}
    (h : (Lane.of column).registers? p = some (input, output)) (hlength : r.length = output.length) :
    (Lane.of column).output ((Lane.of column).store r p) = some r := by
  have houtput := (Lane.registers?_eq_some.mp h).2
  cases column with
  | data =>
    obtain ⟨register, hregister, -⟩ := Option.map_eq_some_iff.mp houtput
    exact congrArg (Option.map (·.output)) (activeRegister?_store hregister r)
  | instruction =>
    obtain ⟨i, hi, rfl⟩ := Option.map_eq_some_iff.mp houtput
    have hcaptured : (i.capture r.bits).captured = r := Register.eq_of_bits (Bits.overlay_eq_of_length hlength)
    exact (congrArg (Option.map (·.captured)) (activeInstruction?_store hi r)).trans (congrArg some hcaptured)

theorem map_output_store (h : parts.map (Lane.of column).registers? = registers.map some) {outputs : List Register}
    (hlengths : outputs.map (·.length) = registers.map (·.2.length)) :
    (List.zipWith (Lane.of column).store outputs parts).map (Lane.of column).output = outputs.map some := by
  induction outputs generalizing parts registers with
  | nil => rfl
  | cons r outputs ih =>
    cases registers with
    | nil => exact absurd hlengths (List.cons_ne_nil _ _)
    | cons first rest =>
      cases parts with
      | nil => exact absurd h.symm (List.cons_ne_nil _ _)
      | cons p parts =>
        obtain ⟨hr, houtputs⟩ := List.cons.inj hlengths
        obtain ⟨hp, hparts⟩ := List.cons.inj h
        exact congrArg₂ List.cons (Lane.output_store hp hr) (ih hparts houtputs)

/-- As many levels of TDO as all parts shift are kept in slices, one for each part. -/
theorem slices_of_levels (h : parts.map (Lane.of column).registers? = registers.map some)
    (hequal : column = .data → ∀ r ∈ registers, r.2.length = r.1.length) {levels : List Bool}
    (hlevels : levels.length = (stream registers).length) :
    let slices := laneOutputs registers levels
    (List.zipWith (Lane.of column).store slices parts).map (Lane.of column).output = slices.map some ∧
      slices.flatMap (·.bits) = levels ∧ slices.map (·.length) = registers.map (·.1.length) := by
  intro slices
  have hlengths := lengths_equal h hequal
  obtain ⟨hbits, hslices⟩ := flatMap_laneOutputs hlengths hlevels
  exact ⟨map_output_store h hslices, hbits, hslices.trans (List.map_congr_left hlengths)⟩

/-! ### The clocks of both -/

theorem isShift_of_isCapture {s : Tap.State} (h : s.isCapture = true) : s.isShift = true := by
  rcases s with _ | _ | _ | ⟨column, stage⟩ <;> try exact absurd h Bool.false_ne_true
  cases stage <;> first | rfl | exact absurd h Bool.false_ne_true

theorem isShift_follow_leadTicks (h : t.Consistent) {capturing : Bool}
    (hstart : capturing = true ∧ t.state.canStartCapture = true ∨
      capturing = false ∧ (t.state.isCapture = true ∨ ∃ column, t.state = .scan column .shift)) (column : Tap.Column) :
    (t.follow (leadTicks capturing column)).state.isShift = true := by
  rcases hstart with ⟨rfl, hstart⟩ | ⟨rfl, hstart⟩
  · have hcapture := state_follow_captureTicks h hstart column
    exact (congrArg Tap.State.isShift hcapture).trans rfl
  · show t.state.isShift = true
    rcases hstart with hcapture | ⟨column, hstate⟩
    · exact isShift_of_isCapture hcapture
    · rw [hstate]
      rfl

/-- The action succeeds, and behind a flush these are all clocks that the driver ever got. -/
structure Sends {α : Type} (act : ChainAction (Logged σ) α) (c : Chain (Logged σ)) (ticks : List Tick) (answer : α)
    (c' : Chain (Logged σ)) : Prop where
  run : act.runOn c = (.ok answer, c')
  flushed : ∃ c'' cable, Chain.flush.runOn c' = (.ok (), c'') ∧ c''.cable? = some cable ∧ cable.todo.toList = [] ∧
    cable.driver.ticks = ticks

theorem Drives.sends {α : Type} {act : ChainAction (Logged σ) α} {c c' : Chain (Logged σ)} {answer : α} {w : Logged σ}
    {ticks : List Tick} {count : Nat} (hrun : act.runOn c = (.ok answer, c'))
    (h : c'.Drives d.logged t parts ⟨d.logged.settle^[count] (d.logged.walk ticks w), []⟩) :
    Sends act c (w.ticks ++ ticks) answer c' := by
  obtain ⟨c'', cable, hflush, -, hcable, hdriver, htodo⟩ := h.flush
  refine ⟨hrun, c'', cable, hflush, hcable, htodo, ?_⟩
  have hticks := d.ticks_settle (count + 1) (d.logged.walk ticks w)
  rw [Function.iterate_succ_apply', d.walk_logged] at hticks
  rw [hdriver, d.walk_logged]
  exact hticks

theorem Drives.scanParts (h : c.Drives d t parts ⟨s, []⟩)
    (hregisters : parts.map (Lane.of column).registers? = registers.map some) (hne : parts ≠ [])
    (capturing : Bool) (hshift : (t.follow (leadTicks capturing column)).state.isShift = true)
    (output : Bool) (exit : Exit) :
    let lead := leadTicks capturing column
    let state := (t.follow lead).state
    let ticks := lead ++ passTicks state (stream registers) exit
    let taken := samples d state (stream registers) exit (d.walk lead s)
    ∃ c' k, (Chain.scanParts column output capturing exit).runOn c = (.ok (), c') ∧
      c'.Drives d (t.follow ticks)
        (if output then List.zipWith (Lane.of column).store (laneOutputs registers taken) parts else parts)
        ⟨d.settle^[k] (d.walk ticks s), []⟩ := by
  intro lead state ticks taken
  have hcolumn : (Lane.of column).column = column := by cases column <;> rfl
  have hregistersne : registers ≠ [] := by
    rintro rfl
    exact hne (List.map_eq_nil_iff.mp hregisters)
  have hscan := h.shiftLane hregisters hregistersne capturing (hcolumn.symm ▸ hshift) output exit
  rw [hcolumn] at hscan
  obtain ⟨c', k, hrun, hdrives⟩ := hscan
  rw [← h.parts] at hregisters hne
  exact ⟨c', k, (runOn_scanParts hregisters hne output capturing exit).trans hrun, hdrives⟩

theorem Drives.scanRegister (h : c.Drives d t parts ⟨s, []⟩) (input : Register) (output? : Option Register)
    (capturing : Bool) (exit : Exit) :
    let lead := leadTicks capturing column
    let state := (t.follow lead).state
    let ticks := lead ++ passTicks state input.bits exit
    ∃ c' k, (Chain.scanRegister column input output? capturing exit).runOn c =
        (.ok (output?.map (·.overlay (samples d state input.bits exit (d.walk lead s)))), c') ∧
      c'.Drives d (t.follow ticks) parts ⟨d.settle^[k] (d.walk ticks s), []⟩ := by
  intro lead state ticks
  obtain ⟨c₁, h₁, k₁⟩ := h.lead capturing column
  rw [Tap.Tracker.follow_append, d.walk_append]
  cases output? with
  | none =>
    obtain ⟨c₂, h₂, k₂⟩ := k₁.deferShift input none exit
    exact ⟨c₂, 0, (Action.runOn_when_ok h₁).trans (Action.runOn_bind_ok h₂ _), k₂⟩
  | some output =>
    obtain ⟨c₂, k, h₂, k₂⟩ := k₁.exchange input output exit
    exact ⟨c₂, k, (Action.runOn_when_ok h₁).trans (Action.runOn_bind_ok h₂ _), k₂⟩

/-- Scanning what all parts shift in a column sends the clocks of one scan of it all in a row, wherever the scan
    starts and ends, and with output the parts keep what the single scan brings back: the levels of TDO before the
    clocks of its bits, in slices as long as the inputs of the parts. -/
theorem scanParts_one_stream {c : Chain (Logged σ)} {w : Logged σ}
    (h : c.Drives d.logged c.tracker c.parts ⟨w, []⟩) (hconsistent : c.tracker.Consistent)
    (hregisters : c.parts.map (Lane.of column).registers? = registers.map some) (hne : c.parts ≠ [])
    (hequal : column = .data → ∀ r ∈ registers, r.2.length = r.1.length) {input output : Register}
    (hinput : input.bits = registers.flatMap (·.1.bits)) (houtput : output.bits = registers.flatMap (·.2.bits))
    (capturing : Bool)
    (hstart : capturing = true ∧ c.state.canStartCapture = true ∨
      capturing = false ∧ (c.state.isCapture = true ∨ ∃ column, c.state = .scan column .shift))
    (wanted : Bool) (exit : Exit) :
    let lead := leadTicks capturing column
    let before := lead ++ enterTicks (c.tracker.follow lead).state
    let ticks := before ++ shiftTicks exit.leavesShift input.bits ++ exitTicks exit
    ∃ c₁ c₂ answer, Sends (scanParts column wanted capturing exit) c (w.ticks ++ ticks) () c₁ ∧
      Sends (scanRegister column input (if wanted then some output else none) capturing exit) c (w.ticks ++ ticks)
        answer c₂ ∧ c₁.tracker = c₂.tracker ∧
      if wanted then
        ∃ (single : Register) (slices : List Register), answer = some single ∧
          single.bits = d.listen (shiftTicks exit.leavesShift input.bits) (d.walk before w.driver) ∧
          c₁.parts.map (Lane.of column).output = slices.map some ∧ slices.flatMap (·.bits) = single.bits ∧
          slices.map (·.length) = registers.map (·.1.length)
      else answer = none ∧ c₁.parts = c.parts := by
  intro lead before ticks
  have hshift := isShift_follow_leadTicks hconsistent hstart column
  have hticks : lead ++ passTicks (c.tracker.follow lead).state input.bits exit = ticks := by
    simp only [passTicks, ticks, before, List.append_assoc]
  have hstream : stream registers = input.bits := hinput.symm
  obtain ⟨c₁, k₁, hparts, hdrives₁⟩ := h.scanParts hregisters hne capturing hshift wanted exit
  obtain ⟨c₂, k₂, hregister, hdrives₂⟩ := h.scanRegister input (if wanted then some output else none) capturing exit
  rw [hstream, hticks] at hdrives₁
  rw [hticks] at hdrives₂
  refine ⟨c₁, c₂, _, hdrives₁.sends hparts, hdrives₂.sends hregister, hdrives₁.tracker.trans hdrives₂.tracker.symm, ?_⟩
  cases wanted with
  | false => exact ⟨rfl, hdrives₁.parts⟩
  | true =>
    have htaken : samples d.logged (c.tracker.follow lead).state input.bits exit (d.logged.walk lead w) =
        d.listen (shiftTicks exit.leavesShift input.bits) (d.walk before w.driver) := by
      rw [samples, d.listen_logged, d.walk_logged, d.walk_logged, d.walk_append]
    -- The output of the one register is as long as its input, so every bit of it is a level of TDO.
    have htotal : output.bits.length = input.bits.length := by
      rw [hinput, houtput, List.length_flatMap, List.length_flatMap]
      exact congrArg List.sum (List.map_congr_left (lengths_equal hregisters hequal))
    rw [htaken] at hdrives₁
    generalize hlevels : d.listen (shiftTicks exit.leavesShift input.bits) (d.walk before w.driver) = levels
      at htaken hdrives₁
    have hcount : levels.length = input.bits.length := by rw [← hlevels, d.length_listen, length_shiftTicks]
    obtain ⟨hkept, hbits, hlengths⟩ :=
      slices_of_levels hregisters hequal (hcount.trans (congrArg List.length hstream.symm))
    have hsingle : (output.overlay levels).bits = levels := Bits.overlay_eq_of_length (hcount.trans htotal.symm)
    refine ⟨output.overlay levels, laneOutputs registers levels,
      congrArg (fun taken => some (output.overlay taken)) htaken, hsingle, ?_, hbits.trans hsingle.symm, hlengths⟩
    rw [hdrives₁.parts]
    exact hkept

/-- Instruction registers of one and of two bits, scanned from Run-Test/Idle to Exit1. -/
theorem scanParts_one_stream_two :
    let opcodes : List Register := [⟨[true], by decide⟩, ⟨[false, true], by decide⟩]
    let part (opcode : Register) : Part :=
      { Part.new none with instructions := [Instruction.new "TEST" opcode], active? := some 0 }
    let input : Register := ⟨[true, false, true], by decide⟩
    let output : Register := ⟨[false, false, false], by decide⟩
    let ticks : List Tick := [⟨true, false⟩, ⟨true, false⟩, ⟨false, false⟩, ⟨false, false⟩, ⟨false, true⟩, ⟨false, false⟩,
      ⟨true, true⟩]
    ∃ (c c₁ c₂ : Chain (Logged Sim.Pod)) (single : Register) (slices : List Register),
      c.state = .runTestIdle ∧ c.parts = opcodes.map part ∧ Sends (scanParts .instruction true true .exit1) c ticks () c₁ ∧
      Sends (scanRegister .instruction input (some output) true .exit1) c ticks (some single) c₂ ∧
      single.bits = [true, true, false] ∧ c₁.parts.map Lane.instruction.output = slices.map some ∧
      slices.flatMap (·.bits) = [true, true, false] ∧ slices.map (·.length) = [1, 2] := by
  intro opcodes part input output ticks
  let w : Logged Sim.Pod := ⟨⟨resetSim [Sim.Device.new 1, Sim.Device.new 2], .oneByOne⟩, []⟩
  let c : Chain (Logged Sim.Pod) :=
    { Chain.new Config.default with
      cable? := some (Cable.new w QueueConfig.default .ample)
      tracker := .ofState .runTestIdle
      parts := opcodes.map part }
  let registers := opcodes.map fun opcode => (opcode, (Instruction.new "TEST" opcode).captured)
  have hdrives : c.Drives Sim.Pod.steady.logged c.tracker c.parts ⟨w, []⟩ :=
    ⟨⟨_, rfl, Cable.stands_new Sim.Pod.steady.logged w .oneByOne (Memory.grants_ample _)⟩, rfl, rfl⟩
  have hregisters : c.parts.map (Lane.of .instruction).registers? = registers.map some := rfl
  have hinput : input.bits = registers.flatMap (·.1.bits) := rfl
  have houtput : output.bits = registers.flatMap (·.2.bits) := rfl
  obtain ⟨c₁, c₂, -, hparts, hregister, -, single, slices, rfl, hsingle, houtputs, hbits, hlengths⟩ :=
    scanParts_one_stream hdrives (Tap.Tracker.consistent_ofState .runTestIdle) hregisters (List.cons_ne_nil _ _) nofun
      hinput houtput true (.inl ⟨rfl, rfl⟩) true .exit1
  have hsingle : single.bits = [true, true, false] := hsingle.trans (by decide)
  exact ⟨c, c₁, c₂, single, slices, rfl, rfl, hparts, hregister, hsingle, houtputs, hbits.trans hsingle, hlengths⟩

end Chain
end Jtag
