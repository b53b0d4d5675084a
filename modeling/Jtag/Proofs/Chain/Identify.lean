import Jtag.Proofs.Chain.Verdict

/-! A scan identifies every chain that fits its limits, as long as what these limits ask for can be held. A path fits
    if it is shorter than what is looked at: of a path that is exactly as long the end is not seen, and the chain is
    reported as too long. -/

namespace Jtag
namespace Sim

/-- The bits of a data path behind a reset: an identification code, or a bypass bit. -/
def dataLength (devices : List Device) : Nat :=
  Scan.total (devices.map fun d => if d.idCode?.isSome then IdCode.length else 1)

/-- Devices that a scan can tell apart: their codes are valid, and an instruction register shows where it
    starts. -/
structure Scannable (devices : List Device) : Prop where
  ne_nil : devices ≠ []
  irLength : ∀ d ∈ devices, 2 ≤ d.irLength
  valid : ∀ d ∈ devices, ∀ id, d.idCode? = some id → id.valid = true

variable {devices : List Device}

theorem length_dataEntries (devices : List Device) :
    ((devices.map Device.found).flatMap (entry .data)).length = dataLength devices := by
  rw [Scan.length_flatMap, List.map_map, dataLength]
  exact congrArg Scan.total (List.map_congr_left fun d _ => Scan.length_dataEntry d.idCode?)

theorem length_instructionEntries (devices : List Device) :
    ((devices.map Device.found).flatMap (entry .instruction)).length = instructionLength devices := by
  rw [Scan.length_flatMap, List.map_map, instructionLength]
  exact congrArg Scan.total (List.map_congr_left fun d _ => Scan.length_instructionEntry d.irLength_pos)

theorem Scannable.idCodes? (h : Scannable devices) :
    Scan.idCodes? ((devices.map Device.found).flatMap (entry .data)) = .ok (devices.map (·.idCode?)) := by
  have hvalid : ∀ id, some id ∈ devices.map (·.idCode?) → id.valid = true := by
    intro id hid
    obtain ⟨d, hd, heq⟩ := List.mem_map.mp hid
    exact h.valid d hd id heq
  rw [← Scan.idCodes?_flatMap hvalid, List.flatMap_map, List.flatMap_map]
  rfl

theorem Scannable.irLengths? (h : Scannable devices) {expected? : Option (List Nat)}
    (hexpected : expected? = none ∨ expected? = some (devices.map (·.irLength))) :
    Scan.irLengths? ((devices.map Device.found).flatMap (entry .instruction)) (devices.map (·.idCode?)).length
      expected? = .ok (devices.map (·.irLength)) := by
  have hlengths : ∀ length ∈ devices.map (·.irLength), 2 ≤ length := by
    intro length hlength
    obtain ⟨d, hd, rfl⟩ := List.mem_map.mp hlength
    exact h.irLength d hd
  have hknown : ∀ expected, expected? = some expected → expected = devices.map (·.irLength) := by
    rintro expected rfl
    rcases hexpected with hnone | hsome
    · cases hnone
    · exact Option.some.inj hsome
  have hsplit := Scan.irLengths?_flatMap hlengths (List.map_eq_nil_iff.not.mpr h.ne_nil) hknown
  rw [List.length_map] at hsplit ⊢
  rw [← hsplit, List.flatMap_map, List.flatMap_map]
  rfl

end Sim

namespace Chain

variable {c : Chain Sim.Pod} {sim : Sim.Chain} {devices : List Sim.Device} {detect : DetectConfig}
  {expected? : Option (List Nat)}

section
variable (hdata : Lookable (dataLimit detect)) (hinstruction : Lookable (instructionLimit detect))
include hdata hinstruction

/-- Devices that can be told apart are found, unless one of their paths fills what is looked at. -/
theorem verdict_of_scannable (h : Sim.Scannable devices)
    (hexpected : expected? = none ∨ expected? = some (devices.map (·.irLength))) :
    verdict detect (devices.map Sim.Device.found) expected? =
      if dataLimit detect ≤ Sim.dataLength devices then .error (.scan (.chainTooLong (dataLimit detect)))
      else if instructionLimit detect ≤ Sim.instructionLength devices then
        .error (.scan (.chainTooLong (instructionLimit detect)))
      else .ok (devices.map Sim.Device.found) := by
  rw [← Sim.length_dataEntries, ← Sim.length_instructionEntries]
  by_cases hlong : dataLimit detect ≤ ((devices.map Sim.Device.found).flatMap (Sim.entry .data)).length
  · rw [if_pos hlong]
    exact verdict_data_error (endWithin_eq_chainTooLong.mpr ⟨hdata, hlong, rfl⟩)
  have hdr := endWithin_eq_ok.mpr ⟨hdata, Nat.lt_of_not_le hlong, rfl⟩
  rw [if_neg hlong]
  by_cases hlong' : instructionLimit detect ≤
      ((devices.map Sim.Device.found).flatMap (Sim.entry .instruction)).length
  · rw [if_pos hlong']
    exact verdict_instruction_error hdr h.idCodes? (endWithin_eq_chainTooLong.mpr ⟨hinstruction, hlong', rfl⟩)
  have hir := endWithin_eq_ok.mpr ⟨hinstruction, Nat.lt_of_not_le hlong', rfl⟩
  have hfound : List.zipWith Found.mk (devices.map (·.idCode?)) (devices.map (·.irLength)) =
      devices.map Sim.Device.found := by
    rw [List.zipWith_map_left, List.zipWith_map_right, List.zipWith_self]
    rfl
  rw [if_neg hlong', verdict_lengths hdr h.idCodes? hir, h.irLengths? hexpected, ← hfound]
  rfl

end

/-- A chain that was found too long has a path that fills what is looked at. -/
theorem verdict_chainTooLong {bits : Nat}
    (h : verdict detect (devices.map Sim.Device.found) expected? = .error (.scan (.chainTooLong bits))) :
    (bits = dataLimit detect ∧ bits ≤ Sim.dataLength devices) ∨
      (bits = instructionLimit detect ∧ bits ≤ Sim.instructionLength devices) := by
  rw [← Sim.length_dataEntries, ← Sim.length_instructionEntries]
  cases hdr : endWithin (dataLimit detect) ((devices.map Sim.Device.found).flatMap (Sim.entry .data)) with
  | error e =>
    rw [verdict_data_error hdr] at h
    cases h
    obtain ⟨-, hlong, rfl⟩ := endWithin_eq_chainTooLong.mp hdr
    exact .inl ⟨rfl, hlong⟩
  | ok dr =>
    cases hcodes : Scan.idCodes? dr with
    | error e =>
      rw [verdict_codes_error hdr hcodes] at h
      cases h
      exact absurd hcodes (Scan.idCodes?_ne_chainTooLong dr bits)
    | ok idCodes =>
      cases hir : endWithin (instructionLimit detect)
          ((devices.map Sim.Device.found).flatMap (Sim.entry .instruction)) with
      | error e =>
        rw [verdict_instruction_error hdr hcodes hir] at h
        cases h
        obtain ⟨-, hlong, rfl⟩ := endWithin_eq_chainTooLong.mp hir
        exact .inr ⟨rfl, hlong⟩
      | ok ir =>
        rw [verdict_lengths hdr hcodes hir] at h
        cases hlengths : Scan.irLengths? ir idCodes.length expected? <;> rw [hlengths] at h <;> cases h

/-- A scan reports a chain as too long only if a path fills all the bits in which its end is looked for, and among
    chains that can be told apart, in limits that can be looked at, it reports all of those and finds the others. -/
theorem scan_chainTooLong (h : c.Reaches sim) (hne : sim.devices ≠ []) (expected? : Option (List Nat)) :
    ∃ answer c', (Chain.scan expected?).runOn c = (answer, c') ∧
      (∀ bits, answer = .error (.scan (.chainTooLong bits)) →
        (bits = dataLimit c.config.detect ∧ bits ≤ Sim.dataLength sim.devices) ∨
          (bits = instructionLimit c.config.detect ∧ bits ≤ Sim.instructionLength sim.devices)) ∧
      (Sim.Scannable sim.devices → expected? = none → Lookable (dataLimit c.config.detect) →
        Lookable (instructionLimit c.config.detect) → answer =
          if dataLimit c.config.detect ≤ Sim.dataLength sim.devices then
            .error (.scan (.chainTooLong (dataLimit c.config.detect)))
          else if instructionLimit c.config.detect ≤ Sim.instructionLength sim.devices then
            .error (.scan (.chainTooLong (instructionLimit c.config.detect)))
          else .ok (sim.devices.map fun d => ⟨d.idCode?, d.irLength⟩)) := by
  obtain ⟨c', hscan, -⟩ := h.scan hne expected?
  refine ⟨_, c', hscan, fun bits hbits => verdict_chainTooLong hbits, fun hdevices hnone hdata hinstruction => ?_⟩
  exact verdict_of_scannable hdata hinstruction hdevices (.inl hnone)

/-- Two devices where one is looked for, and one whose instruction register is looked for in too few bits. -/
theorem scan_chainTooLong_two :
    let config : Config := ⟨.default, { DetectConfig.default with maxParts := 1, maxRegisterLength := 3 }⟩
    let chain (devices : List Sim.Device) : Chain Sim.Pod :=
      { Chain.new config with cable? := some (Cable.new (Sim.Pod.new devices .oneByOne) config.queue .ample) }
    let two := [(Sim.Device.new 4).withIdCode ⟨1268778103⟩, Sim.Device.new 2]
    let one := [Sim.Device.new 4]
    (two ≠ [] ∧ one ≠ [] ∧ (chain two).Reaches (Sim.Chain.new two) ∧ (chain one).Reaches (Sim.Chain.new one)) ∧
      (∃ c', (Chain.scan none).runOn (chain two) = (.error (.scan (.chainTooLong 32)), c')) ∧
      ∃ c', (Chain.scan none).runOn (chain one) = (.error (.scan (.chainTooLong 3)), c') := by
  intro config chain two one
  have htwo : (chain two).Reaches (Sim.Chain.new two) := reaches_new config two .oneByOne
  have hone : (chain one).Reaches (Sim.Chain.new one) := reaches_new config one .oneByOne
  have hdata : Lookable (dataLimit config.detect) := by decide
  have hinstruction : Lookable (instructionLimit config.detect) := by decide
  refine ⟨⟨by decide, by decide, htwo, hone⟩, ?_, ?_⟩
  · obtain ⟨answer, c', hscan, -, hanswer⟩ := scan_chainTooLong htwo (by decide) none
    have hlong := (hanswer ⟨by decide, by decide, by decide⟩ rfl hdata hinstruction).trans (if_pos (by decide))
    exact ⟨c', hscan.trans (congrArg (·, c') hlong)⟩
  · obtain ⟨answer, c', hscan, -, hanswer⟩ := scan_chainTooLong hone (by decide) none
    have hlong := (hanswer ⟨by decide, by decide, by decide⟩ rfl hdata hinstruction).trans
      ((if_neg (by decide)).trans (if_pos (by decide)))
    exact ⟨c', hscan.trans (congrArg (·, c') hlong)⟩

/-- One device with an identification code, where one device is looked for: its path is as long as what is looked
    at, not longer, and yet the chain is reported as too long. -/
theorem scan_full_path_too_long :
    let config : Config := { Config.default with detect := { DetectConfig.default with maxParts := 1 } }
    let devices := [(Sim.Device.new 4).withIdCode ⟨1268778103⟩]
    let c : Chain Sim.Pod :=
      { Chain.new config with
        cable? := some (Cable.new (Sim.Pod.new devices .combineTransfers) config.queue .ample) }
    Sim.Scannable devices ∧ devices.length ≤ config.detect.maxParts ∧
      Sim.dataLength devices = IdCode.length * config.detect.maxParts ∧
      Sim.instructionLength devices ≤ config.detect.maxRegisterLength ∧ c.Reaches (Sim.Chain.new devices) ∧
      ∃ c', (Chain.scan none).runOn c = (.error (.scan (.chainTooLong 32)), c') := by
  intro config devices c
  have hreaches : c.Reaches (Sim.Chain.new devices) := reaches_new config devices .combineTransfers
  have hdevices : Sim.Scannable devices := ⟨by decide, by decide, by decide⟩
  have hverdict : verdict config.detect (devices.map Sim.Device.found) none = .error (.scan (.chainTooLong 32)) :=
    (verdict_of_scannable (by decide) (by decide) hdevices (.inl rfl)).trans (if_pos (by decide))
  obtain ⟨c', hscan, -⟩ := hreaches.scan hdevices.ne_nil none
  exact ⟨hdevices, by decide, by decide, by decide, hreaches, c', hscan.trans (congrArg (·, c') hverdict)⟩

end Chain
end Jtag
