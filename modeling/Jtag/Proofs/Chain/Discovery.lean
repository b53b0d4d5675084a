import Jtag.Proofs.Chain.Operation
import Jtag.Proofs.Chain.Verdict
import Jtag.Proofs.Detect.Measure
import Jtag.Proofs.Sim.Selected

/-! A discovery of simulated devices. Every measurement leaves garbage in the shift registers, and every value that
    is loaded leaves another register selected, but the reset before the next value takes both away. So each value
    finds the devices as they were, and the count comes back to where it started when all values had their turn. -/

namespace Jtag

/-- What a measurement of a path finds, if its trials are not too few. -/
def DetectConfig.found? (detect : DetectConfig) (length : Nat) : Option Nat :=
  if length ≤ detect.maxRegisterLength then some length else none

namespace Chain

open Jtag.Action
open Sim (selectedLength)
open Sim.Device (blank)

/-! ### The configuration -/

section
variable {σ α : Type} {c c' : Chain σ} {answer : Except Error α} {act : ChainAction σ α}

theorem apart_config (config : Config) : Apart fun c : Chain σ => c.config = config := fun _ _ _ _ h => h

theorem config_of_run (hact : Always (fun c' : Chain σ => c'.config = c.config) act) (hrun : act.runOn c = (answer, c')) :
    c'.config = c.config := by
  have hconfig := hact.holds (s := c) rfl
  rwa [hrun] at hconfig

end

variable {c : Chain Sim.Pod} {sim : Sim.Chain} {column : Tap.Column} {devices : List Sim.Device} {tape : List Bool}

/-! ### From one measurement to the next -/

/-- The chain leads to devices that behind a reset are like `devices`, in whatever state they are now. -/
def Leads (c : Chain Sim.Pod) (devices : List Sim.Device) : Prop :=
  ∃ sim strategy, c.Drives Sim.Pod.steady c.tracker c.parts ⟨⟨sim, strategy⟩, []⟩ ∧
    sim.devices.map blank = devices.map blank

theorem Leads.trans {devices' : List Sim.Device} (h : c.Leads devices) (hblank : devices.map blank = devices'.map blank) :
    c.Leads devices' := by
  obtain ⟨sim, strategy, hdrives, hblank'⟩ := h
  exact ⟨sim, strategy, hdrives, hblank'.trans hblank⟩

theorem Reaches.leads (h : c.Reaches sim) : c.Leads sim.devices := by
  obtain ⟨strategy, hdrives⟩ := h.drives
  exact ⟨sim, strategy, hdrives, rfl⟩

theorem Holds.leads (h : c.Holds column devices tape) : c.Leads devices := by
  obtain ⟨sim, hfaces, -, hsim⟩ := h.faces
  obtain ⟨strategy, hdrives⟩ := hfaces.drives
  have hentered : (sim.entered column).map blank = sim.devices.map blank := by
    unfold Sim.Chain.entered
    split
    · exact Sim.Device.rowless_blank.capture column sim.devices
    · rfl
  refine ⟨sim, strategy, hdrives, ?_⟩
  rw [← hentered, hsim, Sim.Device.rowless_blank.load]

theorem Leads.trstReset (h : c.Leads devices) :
    ∃ c' sim, Chain.trstReset.runOn c = (.ok (), c') ∧ c'.config = c.config ∧ c'.Faces sim ∧
      sim.state.canStartCapture = true ∧ sim.signals.trst = true ∧ sim.devices.map blank = devices.map blank := by
  obtain ⟨sim, strategy, hdrives, hblank⟩ := h
  obtain ⟨c', hrun, hfaces, -⟩ := hdrives.trstReset
  refine ⟨c', pulsed sim, hrun, ?_, hfaces, rfl, pulsed_released sim, (Sim.blank_reset sim.devices).trans hblank⟩
  exact config_of_run (apart_config c.config).trstReset hrun

/-- What is measured from the capture state on is the length of what the devices capture. -/
theorem Faces.measure (h : c.Faces sim) (hstate : sim.state = .scan column .capture) (htrst : sim.signals.trst = true)
    (hne : sim.devices ≠ []) (hcaptures : ∀ d ∈ sim.devices, d.captured column ≠ [])
    (hwidth : 0 < c.config.detect.patternBits ∧ c.config.detect.patternBits < wordBits)
    (hthreshold : c.config.detect.thresholdPercent = 100)
    (hbound : (Sim.capturedPath column sim.devices).length < c.config.detect.reach) :
    ∃ c', Chain.detectLength.runOn c =
        (.ok (c.config.detect.found? (Sim.capturedPath column sim.devices).length), c') ∧
      c'.config = c.config ∧ c'.Leads sim.devices := by
  have hentered : sim.entered column = sim.devices.map fun d => d.withRow column (d.captured column) := by
    rw [Sim.Chain.entered, hstate]
    rfl
  have hpath : sim.registerPath column = Sim.capturedPath column sim.devices := by
    rw [Sim.Chain.registerPath, hentered, Sim.path_captured]
  have hrows : ∀ d ∈ sim.entered column, d.row column ≠ [] := by
    rw [hentered]
    refine List.forall_mem_map.mpr fun d hd => ?_
    rw [Sim.Device.row_withRow]
    exact hcaptures d hd
  have hpos : 0 < (Sim.capturedPath column sim.devices).length := by
    obtain ⟨d, rest, hdevices⟩ := List.exists_cons_of_ne_nil hne
    have hfirst := hcaptures d (hdevices ▸ List.mem_cons_self)
    rw [hdevices, Sim.capturedPath, List.map_cons, List.flatten_cons, List.length_append]
    exact Nat.add_pos_left (List.length_pos_of_ne_nil hfirst) _
  rw [← hpath] at hpos hbound ⊢
  obtain ⟨c', tape, hrun, hholds⟩ := h.measured ⟨htrst, .inl hstate⟩ hrows hpos hwidth (by omega) hbound
  rw [find?_accepts_full hpos hwidth.1 hthreshold] at hrun
  refine ⟨c', hrun, config_of_run (apart_config c.config).reaching.detectLength hrun, hholds.leads.trans ?_⟩
  rw [hentered, Sim.Device.rowless_blank.capture]

/-! ### One value -/

/-- Devices whose instructions can all be measured: what they select has a bit to show, and no path is longer than what
    a measurement can tell. -/
structure Discoverable (detect : DetectConfig) (devices : List Sim.Device) : Prop where
  once : ∀ d ∈ devices, d.Once
  responds : ∀ d ∈ devices, d.Responds
  full : detect.thresholdPercent = 100
  tried : 0 < Sim.instructionLength devices ∧ Sim.instructionLength devices ≤ detect.maxRegisterLength
  irReach : Sim.instructionLength devices < detect.reach
  drReach : ∀ value : List Bool, value.length = Sim.instructionLength devices → selectedLength devices value < detect.reach

theorem discoverable_iff {detect : DetectConfig} : Discoverable detect devices ↔
    (∀ d ∈ devices, d.Once) ∧ (∀ d ∈ devices, d.Responds) ∧ detect.thresholdPercent = 100 ∧
      (0 < Sim.instructionLength devices ∧ Sim.instructionLength devices ≤ detect.maxRegisterLength) ∧
      Sim.instructionLength devices < detect.reach ∧ ∀ k < 2 ^ Sim.instructionLength devices,
        selectedLength devices (Bits.ofNat (Sim.instructionLength devices) k) < detect.reach := by
  rw [← Bits.forall_length_iff (P := fun value => selectedLength devices value < detect.reach)]
  constructor
  · rintro ⟨honce, hresponds, hfull, htried, hirReach, hdrReach⟩
    exact ⟨honce, hresponds, hfull, htried, hirReach, hdrReach⟩
  · rintro ⟨honce, hresponds, hfull, htried, hirReach, hdrReach⟩
    exact ⟨honce, hresponds, hfull, htried, hirReach, hdrReach⟩

instance (detect : DetectConfig) (devices : List Sim.Device) : Decidable (Discoverable detect devices) :=
  decidable_of_iff' _ discoverable_iff

theorem Discoverable.ne_nil {detect : DetectConfig} (h : Discoverable detect devices) : devices ≠ [] := by
  rintro rfl
  exact Nat.lt_irrefl 0 h.tried.1

theorem Discoverable.of_blank {detect : DetectConfig} {devices' : List Sim.Device} (h : Discoverable detect devices)
    (hblank : devices'.map blank = devices.map blank) : Discoverable detect devices' := by
  have hlength := Sim.instructionLength_of_blank hblank
  refine ⟨?_, ?_, h.full, hlength ▸ h.tried, hlength ▸ h.irReach, fun value hvalue => ?_⟩
  · exact Sim.forall_of_map_eq (f := blank) (P := Sim.Device.Once) hblank h.once
  · exact Sim.forall_of_map_eq (f := blank) (P := Sim.Device.Responds) hblank h.responds
  · rw [Sim.selectedLength_of_blank hblank]
    exact h.drReach value (hvalue.trans hlength)

theorem Leads.measurePath (h : c.Leads devices) (hdevices : Discoverable c.config.detect devices)
    (hstores : ∀ d ∈ devices, d.Stores)
    (hwidth : 0 < c.config.detect.patternBits ∧ c.config.detect.patternBits < wordBits) (instruction : Register)
    (hinstruction : instruction.bits.length = Sim.instructionLength devices) :
    ∃ c' path, (Chain.measurePath instruction).runOn c = (.ok path, c') ∧ path.instruction = instruction ∧
      path.length? = c.config.detect.found? (selectedLength devices instruction.bits) ∧
      c'.config = c.config ∧ c'.Leads devices := by
  obtain ⟨c₁, sim, h₁, hconfig₁, k₁, hstart, htrst, hblank⟩ := h.trstReset
  -- The devices behind the reset are others than `devices`, but ask for no more.
  have hdevices := hdevices.of_blank hblank
  have hstores : ∀ d ∈ sim.devices, d.Stores := Sim.forall_of_map_eq (f := blank) (P := Sim.Device.Stores) hblank hstores
  rw [← Sim.instructionLength_of_blank hblank] at hinstruction
  rw [← Sim.selectedLength_of_blank hblank]
  have hpresents : Sim.Presents .instruction sim.devices := by
    rintro ⟨⟩
  obtain ⟨c₂, c₃, clocks₃, h₂, h₃, k₃⟩ := k₁.captureAndShift hstart htrst (hpresents.shows hdevices.ne_nil) instruction
  rw [Sim.pushed_eq_latched hinstruction] at k₃
  obtain ⟨c₄, clocks₄, h₄, k₄⟩ := k₃.capture rfl htrst .data
  have hconfig₄ : c₄.config = c.config :=
    calc c₄.config
        = c₃.config := config_of_run ((apart_config c₃.config).reaching.capture .data) h₄
      _ = c₂.config := config_of_run ((apart_config c₂.config).reaching.deferShift instruction none .idle) h₃
      _ = c₁.config := config_of_run ((apart_config c₁.config).reaching.capture .instruction) h₂
      _ = c.config := hconfig₁
  have hlatched := Sim.blank_latched hinstruction
  have hpath := Sim.length_capturedPath_latched hstores instruction.bits
  have hbound : (Sim.capturedPath .data (Sim.latched sim.devices instruction.bits)).length < c₄.config.detect.reach := by
    rw [hpath, hconfig₄]
    exact hdevices.drReach _ hinstruction
  obtain ⟨c₅, h₅, hconfig₅, k₅⟩ := k₄.measure rfl htrst
    (Sim.ne_nil_of_map_eq hdevices.ne_nil hlatched) (Sim.captured_latched_ne_nil hstores hdevices.responds hinstruction)
    (hconfig₄ ▸ hwidth) (hconfig₄ ▸ hdevices.full) hbound
  refine ⟨c₅, ⟨instruction, _⟩, ?_, rfl, rfl, hconfig₅.trans hconfig₄, k₅.trans (hlatched.trans hblank)⟩
  dsimp only at h₅
  rw [hpath, hconfig₄] at h₅
  rw [Chain.measurePath, runOn_bind_ok h₁, runOn_bind_ok h₂, runOn_bind_ok h₃, runOn_bind_ok h₄, runOn_bind_ok h₅]
  rfl

/-! ### All values -/

/-- The count comes back to the last value behind as many steps as there are values. -/
theorem increment_eq_first {n k : Nat} (hk : k < 2 ^ n) {first instruction : Register}
    (hfirst : first.bits = List.replicate n true)
    (hinstruction : instruction.bits = Bits.ofNat n ((2 ^ n - 1 + k) % 2 ^ n)) :
    instruction.increment.bits = Bits.ofNat n ((2 ^ n - 1 + (k + 1)) % 2 ^ n) ∧
      (instruction.increment = first ↔ k + 1 = 2 ^ n) := by
  have hnext : instruction.increment.bits = Bits.ofNat n ((2 ^ n - 1 + (k + 1)) % 2 ^ n) := by
    show Bits.succ instruction.bits = _
    rw [hinstruction, Bits.ofNat_mod, Bits.succ_ofNat, Bits.ofNat_mod, Nat.add_assoc]
  have hpos : 0 < 2 ^ n := Nat.two_pow_pos n
  refine ⟨hnext, ?_⟩
  rw [Register.mk.injEq, hnext, hfirst, ← Bits.ofNat_last]
  constructor
  · intro h
    have hsame := Bits.ofNat_inj (Nat.mod_lt _ hpos) (by omega) h
    have hround : 2 ^ n - 1 + (k + 1) = k + 2 ^ n := by omega
    rw [hround, Nat.add_mod_right, Nat.mod_eq_of_lt hk] at hsame
    omega
  · intro h
    rw [h, Nat.add_mod_right, Nat.mod_eq_of_lt (by omega)]

/-- From the value after `k` steps on, all values that are left are measured, each with what it selects. -/
theorem Leads.measurePaths (hstores : ∀ d ∈ devices, d.Stores) {n : Nat} (hn : Sim.instructionLength devices = n)
    {first : Register} (hfirst : first.bits = List.replicate n true) (left : Nat) {k : Nat} (hleft : k + left + 1 = 2 ^ n)
    {instruction : Register} (hinstruction : instruction.bits = Bits.ofNat n ((2 ^ n - 1 + k) % 2 ^ n))
    (h : c.Leads devices) (hdevices : Discoverable c.config.detect devices)
    (hwidth : 0 < c.config.detect.patternBits ∧ c.config.detect.patternBits < wordBits) :
    ∃ c' paths, (Chain.measurePaths first (left + 1) instruction).runOn c = (.ok paths, c') ∧
      paths.map (·.instruction.bits) =
        (List.range' k (left + 1)).map (fun k => Bits.ofNat n ((2 ^ n - 1 + k) % 2 ^ n)) ∧
      ∀ path ∈ paths, path.length? = c.config.detect.found? (selectedLength devices path.instruction.bits) := by
  induction left generalizing c k instruction with
  | zero =>
    obtain ⟨c₁, path, h₁, rfl, hlength, -, -⟩ := h.measurePath hdevices hstores hwidth instruction
      (by rw [hinstruction, Bits.length_ofNat, hn])
    have hlast : path.instruction.increment = first := (increment_eq_first (by omega) hfirst hinstruction).2.mpr hleft
    refine ⟨c₁, [path], ?_, congrArg (· :: []) hinstruction, List.forall_mem_singleton.mpr hlength⟩
    rw [Chain.measurePaths, runOn_bind_ok h₁]
    dsimp only
    rw [if_pos hlast]
    rfl
  | succ left ih =>
    obtain ⟨c₁, path, h₁, rfl, hlength, hconfig, k₁⟩ := h.measurePath hdevices hstores hwidth instruction
      (by rw [hinstruction, Bits.length_ofNat, hn])
    obtain ⟨hnext, hlast⟩ := increment_eq_first (k := k) (by omega) hfirst hinstruction
    have hmore : path.instruction.increment ≠ first := by
      intro hsame
      have hdone := hlast.mp hsame
      omega
    obtain ⟨c₂, paths, h₂, hvalues, hlengths⟩ := ih (k := k + 1) (by omega) hnext k₁ (hconfig ▸ hdevices) (hconfig ▸ hwidth)
    rw [hconfig] at hlengths
    refine ⟨c₂, path :: paths, ?_, ?_, List.forall_mem_cons.mpr ⟨hlength, hlengths⟩⟩
    · rw [Chain.measurePaths, runOn_bind_ok h₁]
      dsimp only
      rw [if_neg hmore, runOn_bind_ok h₂]
      rfl
    · rw [List.range'_succ, List.map_cons, List.map_cons, hvalues, hinstruction]

/-! ### The whole discovery -/

/-- The part of a discovery before its values: a reset, and the instruction path in its capture state. -/
theorem Leads.captureInstruction (h : c.Leads devices) :
    ∃ c₁ c₂ sim, Chain.trstReset.runOn c = (.ok (), c₁) ∧ (Chain.capture .instruction).runOn c₁ = (.ok (), c₂) ∧
      c₂.config = c.config ∧ c₂.Faces sim ∧ sim.state = .scan .instruction .capture ∧ sim.signals.trst = true ∧
      sim.devices.map blank = devices.map blank := by
  obtain ⟨c₁, sim, h₁, hconfig₁, k₁, hstart, htrst, hblank⟩ := h.trstReset
  obtain ⟨c₂, clocks, h₂, k₂⟩ := k₁.capture hstart htrst .instruction
  have hconfig₂ := config_of_run ((apart_config c₁.config).reaching.capture .instruction) h₂
  exact ⟨c₁, c₂, _, h₁, h₂, hconfig₂.trans hconfig₁, k₂, rfl, htrst, hblank⟩

/-- Without a pattern, or with one that a word cannot count through, a discovery fails before it measures. -/
theorem Leads.discover_invalid_width (h : c.Leads devices)
    (hwidth : c.config.detect.patternBits = 0 ∨ wordBits ≤ c.config.detect.patternBits) :
    ∃ c', Chain.discover.runOn c = (.error (.detectionFailed "invalid test pattern width"), c') := by
  obtain ⟨c₁, c₂, -, h₁, h₂, hconfig, -⟩ := h.captureInstruction
  have hdetect : Chain.detectLength.runOn c₂ = (.error (.detectionFailed "invalid test pattern width"), c₂) := by
    rw [Chain.detectLength, runOn_bind_ok (runOn_get c₂)]
    dsimp only
    rw [hconfig, if_pos hwidth]
    rfl
  refine ⟨c₂, ?_⟩
  rw [Chain.discover, runOn_bind_ok h₁, runOn_bind_ok h₂, runOn_bind_error hdetect]

theorem Leads.discover (h : c.Leads devices) (hdevices : Discoverable c.config.detect devices)
    (hstores : ∀ d ∈ devices, d.Stores)
    (hwidth : 0 < c.config.detect.patternBits ∧ c.config.detect.patternBits < wordBits) {n : Nat}
    (hn : Sim.instructionLength devices = n) :
    ∃ c' found, Chain.discover.runOn c = (.ok found, c') ∧ found.irLength = n ∧
      found.paths.map (·.instruction.bits) =
        (List.range (2 ^ n)).map (fun k => Bits.ofNat n ((2 ^ n - 1 + k) % 2 ^ n)) ∧
      ∀ path ∈ found.paths, path.length? = c.config.detect.found? (selectedLength devices path.instruction.bits) := by
  obtain ⟨c₁, c₂, sim, h₁, h₂, hconfig₂, k₂, hstate, htrst, hblank⟩ := h.captureInstruction
  have hlength : (Sim.capturedPath .instruction sim.devices).length = n := by
    rw [Sim.length_capturedPath_instruction, Sim.instructionLength_of_blank hblank, hn]
  have hbound : (Sim.capturedPath .instruction sim.devices).length < c₂.config.detect.reach := by
    rw [hlength, hconfig₂, ← hn]
    exact hdevices.irReach
  obtain ⟨c₃, h₃, hconfig₃, k₃⟩ := k₂.measure hstate htrst
    (hdevices.of_blank hblank).ne_nil (fun _ _ => List.cons_ne_nil _ _) (hconfig₂ ▸ hwidth) (hconfig₂ ▸ hdevices.full) hbound
  rw [hlength, hconfig₂, DetectConfig.found?, if_pos (hn ▸ hdevices.tried.2)] at h₃
  have hconfig := hconfig₃.trans hconfig₂
  obtain ⟨first, hfirst, hfilled⟩ := runOn_filled c₃ (hn ▸ hdevices.tried.1) true
  have hstart : first.bits = Bits.ofNat n ((2 ^ n - 1 + 0) % 2 ^ n) := by
    rw [hfirst, Nat.add_zero, Bits.ofNat_mod, Bits.ofNat_last]
  have hpos : 0 < 2 ^ n := Nat.two_pow_pos n
  obtain ⟨c₄, paths, h₄, hvalues, hlengths⟩ := Leads.measurePaths hstores hn hfirst (2 ^ n - 1) (by omega) hstart
    (k₃.trans hblank) (hconfig ▸ hdevices) (hconfig ▸ hwidth)
  have hcount : 2 ^ n - 1 + 1 = 1 <<< n := by
    rw [Nat.one_shiftLeft]
    omega
  rw [hcount] at h₄
  rw [Nat.sub_add_cancel hpos, ← List.range_eq_range'] at hvalues
  rw [hconfig] at hlengths
  refine ⟨c₄, ⟨n, paths⟩, ?_, rfl, hvalues, hlengths⟩
  rw [Chain.discover, runOn_bind_ok h₁, runOn_bind_ok h₂, runOn_bind_ok h₃]
  dsimp only
  rw [runOn_bind_ok hfilled, runOn_bind_ok h₄]
  rfl

/-- A discovery finds all values of the instruction path, counted up from all ones, each once and with the length of
    the data path that it selects. -/
theorem discover_complete (h : c.Reaches sim) (hdriven : sim.Driven) (hdevices : Discoverable c.config.detect sim.devices)
    (hwidth : 0 < c.config.detect.patternBits ∧ c.config.detect.patternBits < wordBits) :
    let n := Sim.instructionLength sim.devices
    ∃ (c' : Chain Sim.Pod) (found : Discovery), Chain.discover.runOn c = (.ok found, c') ∧ found.irLength = n ∧
      found.paths.length = 2 ^ n ∧
      found.paths.map (·.instruction.bits) =
        (List.range (2 ^ n)).map (fun k => Bits.ofNat n ((2 ^ n - 1 + k) % 2 ^ n)) ∧
      (found.paths.map (·.instruction.bits)).head? = some (List.replicate n true) ∧
      (∀ value : List Bool, value.length = n → (found.paths.map (·.instruction.bits)).count value = 1) ∧
      ∀ path ∈ found.paths, path.length? =
        if selectedLength sim.devices path.instruction.bits ≤ c.config.detect.maxRegisterLength then
          some (selectedLength sim.devices path.instruction.bits) else none := by
  intro n
  have hstores := (hdriven.fitted hdevices.once).stores
  obtain ⟨c', found, hrun, hlength, hvalues, hlengths⟩ := h.leads.discover (n := n) hdevices hstores hwidth rfl
  refine ⟨c', found, hrun, hlength, ?_, hvalues, ?_, ?_, hlengths⟩
  · simpa using congrArg List.length hvalues
  · rw [hvalues, List.head?_map, List.head?_range, if_neg (Nat.two_pow_pos n).ne', Option.map_some, Nat.add_zero,
      Bits.ofNat_mod, Bits.ofNat_last]
  · intro value hvalue
    rw [hvalues, ← hvalue]
    exact Bits.count_ofNat_from_last value

/-- Eight values of a device with one bit and one with two bits, of which one value selects a register. -/
theorem discover_complete_three :
    let devices := [Sim.Device.new 1, (Sim.Device.new 2).withInstruction 1 (.data 3)]
    ∃ (c c' : Chain Sim.Pod) (found : Discovery),
      (c.Reaches (.new devices) ∧ (Sim.Chain.new devices).Driven ∧ Discoverable c.config.detect devices ∧
        0 < c.config.detect.patternBits ∧ c.config.detect.patternBits < wordBits) ∧
      Chain.discover.runOn c = (.ok found, c') ∧
      found.paths.map (fun path => (Bits.toNat path.instruction.bits, path.length?)) =
        [(7, some 2), (0, some 2), (1, some 2), (2, some 4), (3, some 4), (4, some 2), (5, some 2), (6, some 2)] := by
  intro devices
  have hreaches := reaches_new Config.default devices .combineTransfers
  have hdriven : (Sim.Chain.new devices).Driven := by
    refine .new fun d hd => ?_
    rcases List.mem_cons.mp hd with rfl | hd
    · exact .new 1
    · rw [List.mem_singleton.mp hd]
      exact .withInstruction (.new 2) 1 (.data 3)
  have hdevices : Discoverable DetectConfig.default devices := by decide
  obtain ⟨c', found, hrun, -, -, hvalues, -, -, hlengths⟩ := discover_complete hreaches hdriven hdevices (by decide)
  refine ⟨_, c', found, ⟨hreaches, hdriven, hdevices, by decide⟩, hrun, ?_⟩
  have hpaths : found.paths.map (fun path => (Bits.toNat path.instruction.bits, path.length?)) =
      (found.paths.map (·.instruction.bits)).map fun bits =>
        (Bits.toNat bits, DetectConfig.default.found? (selectedLength devices bits)) := by
    rw [List.map_map]
    exact List.map_congr_left fun path hpath => congrArg (Prod.mk _) (hlengths path hpath)
  rw [hpaths, hvalues]
  decide

/-- A pattern as wide as a word, and one device: the reset and the capture succeed, but nothing is measured. -/
theorem discover_wide_pattern :
    let config : Config := { Config.default with detect := { DetectConfig.default with patternBits := 64 } }
    let devices := [Sim.Device.new 1]
    ∃ c c' : Chain Sim.Pod,
      (c.Reaches (.new devices) ∧ (Sim.Chain.new devices).Driven ∧ Discoverable c.config.detect devices ∧
        c.config = config) ∧
      Chain.discover.runOn c = (.error (.detectionFailed "invalid test pattern width"), c') := by
  intro config devices
  have hreaches := reaches_new config devices .combineTransfers
  have hdriven : (Sim.Chain.new devices).Driven := .new fun d hd => List.mem_singleton.mp hd ▸ .new 1
  have hdevices : Discoverable config.detect devices := by decide
  obtain ⟨c', hrun⟩ := hreaches.leads.discover_invalid_width (.inr (by decide))
  exact ⟨_, c', ⟨hreaches, hdriven, hdevices, rfl⟩, hrun⟩

end Chain
end Jtag
