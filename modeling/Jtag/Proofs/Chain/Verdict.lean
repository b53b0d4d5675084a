import Jtag.Proofs.Chain.Faces
import Jtag.Proofs.Scan.InstructionPath
import Jtag.Proofs.Sim.Reset

/-! What a scan of simulated devices answers. The answer depends on what the devices are and on the limits
    alone: not on their state, on what the tracker knew before, or on what is still deferred. -/

namespace Jtag

namespace Chain

open Sim (Presents entry pushed)

/-- The cable of the chain leads to `sim`: its reset line is released, its controllers are in one of the sixteen
    states, and no results are left to be picked up. The tracker may know anything about them. -/
structure Reaches (c : Chain Sim.Pod) (sim : Sim.Chain) : Prop where
  drives : ∃ strategy, c.Drives Sim.Pod.steady c.tracker c.parts ⟨⟨sim, strategy⟩, []⟩
  released : sim.signals.trst = true
  known : sim.state ≠ .unknown

variable {c : Chain Sim.Pod} {sim : Sim.Chain} {column : Tap.Column} {length : Nat}

/-- A chain with a new cable to devices after power-up. -/
theorem reaches_new (config : Config) (devices : List Sim.Device) (strategy : FlushStrategy) :
    ({ Chain.new config with
      cable? := some (Cable.new (Sim.Pod.new devices strategy) config.queue .ample) } : Chain Sim.Pod).Reaches
        (Sim.Chain.new devices) where
  drives := ⟨strategy, ⟨_, rfl, Cable.stands_new Sim.Pod.steady _ strategy (Memory.grants_ample _)⟩, rfl, rfl⟩
  released := by
    show Signals.resetLines.trst = true
    decide
  known := nofun

theorem Reaches.reset (h : c.Reaches sim) :
    ∃ (c' : Chain Sim.Pod) (devices : List Sim.Device) (clocks : Nat), Chain.reset.runOn c = (.ok (), c') ∧
      c'.Faces ⟨devices.map Sim.Device.reset, .runTestIdle, sim.signals, clocks⟩ ∧
      devices.map Sim.Device.found = sim.devices.map Sim.Device.found := by
  obtain ⟨strategy, hdrives⟩ := h.drives
  obtain ⟨devices, clocks, hwalk, hfound⟩ := Sim.walk_resetTicks h.released h.known strategy
  obtain ⟨c₁, h₁, k₁⟩ := hdrives.clock true false Tap.resetClocks
  obtain ⟨c₂, h₂, k₂⟩ := k₁.clock false false 1
  have htracker : c₂.tracker = .ofState .runTestIdle := by
    rw [← c.tracker.follow_resetTicks, Tap.resetTicks, Tap.Tracker.follow_append]
    exact k₂.tracker
  refine ⟨c₂, devices, clocks, (Action.runOn_bind_ok h₁ _).trans h₂, ⟨⟨strategy, ?_⟩, ?_, ?_⟩, hfound⟩
  · rw [← hwalk, Tap.resetTicks, Steady.walk_append]
    exact ⟨k₂.cable, rfl, rfl⟩
  · rw [htracker]
    exact Tap.Tracker.consistent_ofState .runTestIdle
  · exact congrArg Tap.Tracker.state htracker

/-! ### One column -/

theorem overlay_seen {output : Register} {count : Nat} {path pattern : List Bool} (hcount : output.length ≤ count)
    (hlong : count ≤ pattern.length) :
    (output.overlay (Scan.seen count path pattern)).bits = Scan.seen output.length path pattern := by
  have htake : (Scan.seen count path pattern).take output.bits.length = Scan.seen output.length path pattern := by
    rw [Scan.seen, List.take_take, ← Register.length, Nat.min_eq_left hcount]
    rfl
  show Bits.overlay _ output.bits = _
  rw [← Bits.overlay_take, htake]
  refine Bits.overlay_eq_of_length ?_
  rw [Scan.seen, List.length_take, List.length_append, ← Register.length]
  omega

/-- The devices behind a capture and a shift that ends with an update. -/
theorem Faces.follow_push (h : c.Faces sim) (hstart : sim.state.canStartCapture = true) (htrst : sim.signals.trst = true)
    (hshows : Sim.Shows column (sim.devices.map fun d => d.withRow column (d.captured column))) {bits : List Bool}
    (hbits : bits ≠ []) {c' : Chain Sim.Pod} {parts : List Part} {strategy : FlushStrategy}
    (hdrives : c'.Drives Sim.Pod.steady
      ((c.tracker.follow (captureTicks column)).follow (passTicks (.scan column .capture) bits .idle)) parts
      ⟨Sim.Pod.steady.walk (passTicks (.scan column .capture) bits .idle)
        (Sim.Pod.steady.walk (captureTicks column) ⟨sim, strategy⟩), []⟩) :
    ∃ clocks, c'.Faces ⟨pushed column bits sim.devices, .runTestIdle, sim.signals, clocks⟩ := by
  obtain ⟨hwalk, -⟩ := Sim.walk_push htrst hstart hshows hbits (.inl rfl) strategy
  rw [← Tap.Tracker.follow_append, ← Steady.walk_append, ← scanTicks, hwalk] at hdrives
  exact ⟨_, h.follow (known_of_canStartCapture (h.canStartCapture hstart)) htrst hwalk hdrives⟩

/-- A capture and a shift of simulated devices: their path comes out first, followed by what goes in. -/
theorem Faces.captureAndExchange (h : c.Faces sim) (hstart : sim.state.canStartCapture = true)
    (htrst : sim.signals.trst = true)
    (hshows : Sim.Shows column (sim.devices.map fun d => d.withRow column (d.captured column)))
    (input output : Register) (hfits : output.length ≤ input.length) :
    ∃ (c' : Chain Sim.Pod) (seen : Register) (clocks : Nat),
      (Chain.captureAndExchange column input output).runOn c = (.ok seen, c') ∧
      seen.bits = Scan.seen output.length (Sim.capturedPath column sim.devices) input.bits ∧
      c'.Faces ⟨pushed column input.bits sim.devices, .runTestIdle, sim.signals, clocks⟩ := by
  obtain ⟨strategy, hdrives⟩ := h.drives
  have hcapture := state_follow_captureTicks h.consistent (h.canStartCapture hstart) column
  obtain ⟨-, hsamples⟩ := Sim.walk_push htrst hstart hshows input.bits_ne_nil (.inl rfl) strategy
  obtain ⟨c₁, h₁, k₁⟩ := hdrives.capture column
  obtain ⟨c₂, k, h₂, k₂⟩ := k₁.exchange input output .idle
  rw [hcapture, hsamples] at h₂
  rw [hcapture, Sim.Pod.iterate_settle] at k₂
  obtain ⟨clocks, hfaces⟩ := h.follow_push hstart htrst hshows input.bits_ne_nil k₂
  exact ⟨c₂, _, clocks, (Action.runOn_bind_ok h₁ _).trans h₂, overlay_seen hfits (Nat.le_refl _), hfaces⟩

/-- The same without output. -/
theorem Faces.captureAndShift (h : c.Faces sim) (hstart : sim.state.canStartCapture = true)
    (htrst : sim.signals.trst = true)
    (hshows : Sim.Shows column (sim.devices.map fun d => d.withRow column (d.captured column))) (input : Register) :
    ∃ (c₁ c₂ : Chain Sim.Pod) (clocks : Nat), (Chain.capture column).runOn c = (.ok (), c₁) ∧
      (Chain.shift input .idle).runOn c₁ = (.ok (), c₂) ∧
      c₂.Faces ⟨pushed column input.bits sim.devices, .runTestIdle, sim.signals, clocks⟩ := by
  obtain ⟨strategy, hdrives⟩ := h.drives
  have hcapture := state_follow_captureTicks h.consistent (h.canStartCapture hstart) column
  obtain ⟨c₁, h₁, k₁⟩ := hdrives.capture column
  obtain ⟨c₂, h₂, k₂⟩ := k₁.deferShift input none .idle
  rw [hcapture] at k₂
  obtain ⟨clocks, hfaces⟩ := h.follow_push hstart htrst hshows input.bits_ne_nil k₂
  exact ⟨c₁, c₂, clocks, h₁, h₂, hfaces⟩

/-- A path can be looked at in so many bits: there are some, and a row of twice as many can be held. -/
structure Lookable (limit : Nat) : Prop where
  pos : 0 < limit
  row : 2 * limit ≤ Word.rowLimit

instance {limit : Nat} : Decidable (Lookable limit) := decidable_of_iff (0 < limit ∧ 2 * limit ≤ Word.rowLimit)
  ⟨fun ⟨hpos, hrow⟩ => ⟨hpos, hrow⟩, fun ⟨hpos, hrow⟩ => ⟨hpos, hrow⟩⟩

theorem runOn_makeFilled {limit : Nat} {value : Bool} (hne : List.replicate limit value ≠ [])
    (hrow : limit ≤ Word.rowLimit) :
    (makeFilled limit value).runOn c = (.ok ⟨List.replicate limit value, hne⟩, c) := by
  rw [makeFilled, if_neg (Nat.not_lt_of_le hrow), Register.filled?, Register.ofBits?, dif_neg hne]
  rfl

theorem overlay_replicate {limit : Nat} (hne : List.replicate (2 * limit) true ≠ []) :
    ((⟨List.replicate (2 * limit) true, hne⟩ : Register).overlay (List.replicate limit false)).bits =
      List.replicate limit false ++ List.replicate limit true := by
  show Bits.overlay _ (List.replicate (2 * limit) true) = _
  rw [Nat.two_mul, List.replicate_add]
  exact Bits.overlay_append (by simp) _

/-- The devices behind the two scans of a column. -/
def pushedTwice (length : Nat) (column : Tap.Column) (devices : List Sim.Device) : List Sim.Device :=
  pushed column (List.replicate length false ++ List.replicate length true)
    (pushed column (List.replicate length true) devices)

theorem found_pushedTwice (length : Nat) (column : Tap.Column) (devices : List Sim.Device) :
    (pushedTwice length column devices).map Sim.Device.found = devices.map Sim.Device.found := by
  rw [pushedTwice, Sim.found_pushed, Sim.found_pushed]

/-- Both scans of a column find the same devices; what comes out behind the path is what each of them shifts in. -/
theorem Faces.captureTwice (h : c.Faces sim) (hidle : sim.state = .runTestIdle) (htrst : sim.signals.trst = true)
    (hne : sim.devices ≠ []) (hpresents : Presents column sim.devices) (hlook : Lookable length) :
    let path := (sim.devices.map Sim.Device.found).flatMap (entry column)
    ∃ (c' : Chain Sim.Pod) (first second : Register) (clocks : Nat),
      (Chain.captureTwice length column).runOn c = (.ok (first, second), c') ∧
      first.bits = Scan.seen length path (List.replicate length true) ∧
      second.bits = Scan.seen length path (List.replicate length false ++ List.replicate length true) ∧
      c'.Faces ⟨pushedTwice length column sim.devices, .runTestIdle, sim.signals, clocks⟩ := by
  intro path
  obtain ⟨hlength, hrow⟩ := hlook
  have hsingle : length ≤ Word.rowLimit := Nat.le_trans (Nat.le_mul_of_pos_left length Nat.two_pos) hrow
  have hzeros : List.replicate length false ≠ [] := List.ne_nil_of_length_pos (by rwa [List.length_replicate])
  have hones : List.replicate length true ≠ [] := List.ne_nil_of_length_pos (by rwa [List.length_replicate])
  have hdouble : List.replicate (2 * length) true ≠ [] := List.ne_nil_of_length_pos (by simpa using hlength)
  generalize hboth : (⟨_, hdouble⟩ : Register).overlay (List.replicate length false) = both
  have hbits : both.bits = List.replicate length false ++ List.replicate length true := hboth ▸ overlay_replicate hdouble
  have hlong : length ≤ both.length := by simp [Register.length, hbits]
  have hstart : sim.state.canStartCapture = true := by rw [hidle]; rfl
  have hfound := Sim.found_pushed column (List.replicate length true) sim.devices
  have hagain := hpresents.pushed (List.replicate length true)
  obtain ⟨c₁, first, clocks₁, h₁, hfirst, k₁⟩ := h.captureAndExchange hstart htrst (hpresents.shows hne)
    ⟨List.replicate length true, hones⟩ ⟨List.replicate length false, hzeros⟩ (by simp [Register.length])
  -- The second output is shorter than what is shifted: the ones behind the zeros are not collected.
  obtain ⟨c₂, second, clocks₂, h₂, hsecond, k₂⟩ := k₁.captureAndExchange rfl htrst
    (hagain.shows (Sim.ne_nil_of_map_eq hne hfound)) both
    ⟨List.replicate length false, hzeros⟩ (by simpa [Register.length] using hlong)
  rw [Sim.capturedPath_eq_entries hpresents, Register.length, List.length_replicate] at hfirst
  rw [Sim.capturedPath_eq_entries hagain, hfound, Register.length, List.length_replicate, hbits] at hsecond
  rw [hbits] at k₂
  refine ⟨c₂, first, second, clocks₂, ?_, hfirst, hsecond, k₂⟩
  unfold Chain.captureTwice
  rw [Action.runOn_bind_ok (runOn_makeFilled hones hsingle), Action.runOn_bind_ok (runOn_makeFilled hdouble hrow)]
  dsimp only
  rw [hboth, Action.runOn_bind_ok (runOn_makeFilled hzeros hsingle), Action.runOn_bind_ok h₁, Action.runOn_bind_ok h₂]
  rfl

/-- Why a path cannot be looked at in so many bits. -/
def lookError (limit : Nat) : Error :=
  if limit = 0 then .register .invalidLength
  else if Word.rowLimit < limit then .overlong limit
  else .overlong (2 * limit)

theorem captureTwice_error (h : ¬Lookable length) :
    (Chain.captureTwice length column).runOn c = (.error (lookError length), c) := by
  unfold Chain.captureTwice lookError
  by_cases hzero : length = 0
  · rw [if_pos hzero, hzero]
    rfl
  have hpos : 0 < length := Nat.pos_of_ne_zero hzero
  rw [if_neg hzero]
  by_cases hlong : Word.rowLimit < length
  · rw [if_pos hlong]
    refine Action.runOn_bind_error ?_ _
    rw [makeFilled, if_pos hlong]
    rfl
  · have hones : List.replicate length true ≠ [] := List.ne_nil_of_length_pos (by rwa [List.length_replicate])
    have hdouble : Word.rowLimit < 2 * length := Nat.lt_of_not_le fun hrow => h ⟨hpos, hrow⟩
    rw [if_neg hlong, Action.runOn_bind_ok (runOn_makeFilled hones (Nat.le_of_not_lt hlong))]
    refine Action.runOn_bind_error ?_ _
    rw [makeFilled, if_pos hdouble]
    rfl

/-- A path whose end is looked for in `limit` bits. The end is not found if the path fills all of them. -/
def endWithin (limit : Nat) (path : List Bool) : Except Error (List Bool) :=
  if Lookable limit then
    if limit ≤ path.length then .error (.scan (.chainTooLong limit)) else .ok path
  else .error (lookError limit)

theorem endWithin_eq_ok {limit : Nat} {path seen : List Bool} :
    endWithin limit path = .ok seen ↔ Lookable limit ∧ path.length < limit ∧ seen = path := by
  unfold endWithin
  split
  · rename_i hlook
    split
    · rename_i hlong
      exact ⟨nofun, fun h => absurd h.2.1 (Nat.not_lt_of_le hlong)⟩
    · rename_i hshort
      rw [Except.ok.injEq, and_iff_right hlook, and_iff_right (Nat.lt_of_not_le hshort), eq_comm]
  · rename_i hnot
    exact ⟨nofun, fun h => absurd h.1 hnot⟩

theorem endWithin_eq_chainTooLong {limit bits : Nat} {path : List Bool} :
    endWithin limit path = .error (.scan (.chainTooLong bits)) ↔ Lookable limit ∧ limit ≤ path.length ∧ bits = limit := by
  unfold endWithin
  split
  · rename_i hlook
    split
    · rename_i hlong
      rw [and_iff_right hlook, and_iff_right hlong]
      simp [eq_comm]
    · rename_i hshort
      exact ⟨nofun, fun h => absurd h.2.1 hshort⟩
  · rename_i hnot
    refine ⟨fun h => ?_, fun h => absurd h.1 hnot⟩
    unfold lookError at h
    split at h
    · cases h
    · split at h <;> cases h

/-- A path is reported as too long exactly if it fills all that is looked at. -/
theorem Faces.capturedPath (h : c.Faces sim) (hidle : sim.state = .runTestIdle) (htrst : sim.signals.trst = true)
    (hne : sim.devices ≠ []) (hpresents : Presents column sim.devices) (length : Nat) :
    let path := (sim.devices.map Sim.Device.found).flatMap (entry column)
    ∃ c', (Chain.capturedPath length column).runOn c = (endWithin length path, c') ∧
      (Lookable length → ∃ clocks, c'.Faces ⟨pushedTwice length column sim.devices, .runTestIdle, sim.signals, clocks⟩) := by
  intro path
  by_cases hlook : Lookable length
  case neg =>
    rw [endWithin, if_neg hlook]
    exact ⟨c, Action.runOn_bind_error (captureTwice_error hlook) _, fun hlook' => absurd hlook' hlook⟩
  obtain ⟨c', first, second, clocks, hrun, hfirst, hsecond, hfaces⟩ := h.captureTwice hidle htrst hne hpresents hlook
  have hseen : Scan.agreement first.bits second.bits = min path.length length := by
    rw [hfirst, hsecond, Scan.agreement_seen]
  refine ⟨c', ?_, fun _ => ⟨clocks, hfaces⟩⟩
  unfold Chain.capturedPath
  rw [Action.runOn_bind_ok hrun, endWithin, if_pos hlook]
  dsimp only
  rw [hseen]
  by_cases hlong : length ≤ path.length
  · rw [if_pos hlong, if_pos (Nat.min_eq_right hlong)]
    exact Action.runOn_bind_error rfl _
  · have hshort : path.length < length := Nat.lt_of_not_le hlong
    have hmin : min path.length length = path.length := Nat.min_eq_left (Nat.le_of_lt hshort)
    rw [if_neg hlong, hmin, if_neg (Nat.ne_of_lt hshort), hfirst, Scan.take_seen (Nat.le_of_lt hshort)]
    rfl

/-! ### The scan -/

/-- What a scan answers for devices: either path may fill what is looked at, if it can be looked at, the data path
    may not split into valid codes, and the instruction path may not split into as many registers. -/
def verdict (detect : DetectConfig) (devices : List Found) (expected? : Option (List Nat)) :
    Except Error (List Found) := do
  let dr ← endWithin (dataLimit detect) (devices.flatMap (entry .data))
  let idCodes ← (Scan.idCodes? dr).mapError .scan
  let ir ← endWithin (instructionLimit detect) (devices.flatMap (entry .instruction))
  let lengths ← (Scan.irLengths? ir idCodes.length expected?).mapError fun _ => .scan .invalidIr
  return List.zipWith Found.mk idCodes lengths

section Stages
variable {detect : DetectConfig} {devices : List Found} {expected? : Option (List Nat)} {dr ir : List Bool}
  {idCodes : List (Option IdCode)}

theorem verdict_data_error {e : Error}
    (h : endWithin (dataLimit detect) (devices.flatMap (entry .data)) = .error e) :
    verdict detect devices expected? = .error e := by
  rw [verdict, h]
  rfl

variable (hdr : endWithin (dataLimit detect) (devices.flatMap (entry .data)) = .ok dr)
include hdr

theorem verdict_codes_error {e : ScanError} (h : Scan.idCodes? dr = .error e) :
    verdict detect devices expected? = .error (.scan e) := by
  rw [verdict, hdr]
  simp only [bind, Except.bind, Except.mapError, h]

variable (hcodes : Scan.idCodes? dr = .ok idCodes)
include hcodes

theorem verdict_instruction_error {e : Error}
    (h : endWithin (instructionLimit detect) (devices.flatMap (entry .instruction)) = .error e) :
    verdict detect devices expected? = .error e := by
  rw [verdict, hdr, h]
  simp only [bind, Except.bind, Except.mapError, hcodes]

theorem verdict_lengths
    (hir : endWithin (instructionLimit detect) (devices.flatMap (entry .instruction)) = .ok ir) :
    verdict detect devices expected? =
      (Scan.irLengths? ir idCodes.length expected?).mapError (fun _ => Error.scan .invalidIr) >>= fun lengths =>
        .ok (List.zipWith Found.mk idCodes lengths) := by
  rw [verdict, hdr, hir]
  simp only [bind, Except.bind, Except.mapError, hcodes]
  rfl

end Stages

theorem runOn_scan {c₁ c₂ c₃ : Chain Sim.Pod} {devices : List Found} (expected? : Option (List Nat))
    (h₁ : Chain.reset.runOn c = (.ok (), c₁))
    (h₂ : (Chain.capturedPath (dataLimit c.config.detect) .data).runOn c₁ =
      (endWithin (dataLimit c.config.detect) (devices.flatMap (entry .data)), c₂))
    (h₃ : Lookable (dataLimit c.config.detect) → (Chain.capturedPath (instructionLimit c.config.detect) .instruction).runOn c₂ =
      (endWithin (instructionLimit c.config.detect) (devices.flatMap (entry .instruction)), c₃)) :
    ∃ c', (Chain.scan expected?).runOn c = (verdict c.config.detect devices expected?, c') ∧
      ((verdict c.config.detect devices expected?).isOk → c' = c₃ ∧ Lookable (dataLimit c.config.detect) ∧
        Lookable (instructionLimit c.config.detect) ∧
        (devices.flatMap (entry .instruction)).length < instructionLimit c.config.detect) := by
  have hfails : ∀ e : Error, (Except.error e : Except Error (List Found)).isOk → False := fun _ => Bool.false_ne_true
  unfold Chain.scan
  rw [Action.runOn_bind_ok (Action.runOn_get c)]
  dsimp only
  rw [Action.runOn_bind_ok h₁]
  cases hdr : endWithin (dataLimit c.config.detect) (devices.flatMap (entry .data)) with
  | error e =>
    rw [verdict_data_error hdr]
    exact ⟨c₂, Action.runOn_bind_error (hdr ▸ h₂) _, fun hok => (hfails e hok).elim⟩
  | ok dr =>
    have hlook := (endWithin_eq_ok.mp hdr).1
    rw [Action.runOn_bind_ok (hdr ▸ h₂)]
    cases hcodes : Scan.idCodes? dr with
    | error e =>
      rw [verdict_codes_error hdr hcodes]
      dsimp only
      cases idCodeWarning? e with
      | none => exact ⟨c₂, rfl, fun hok => (hfails _ hok).elim⟩
      | some w => exact ⟨{ c₂ with warnings := c₂.warnings.push w }, rfl, fun hok => (hfails _ hok).elim⟩
    | ok idCodes =>
      dsimp only
      rw [pure_bind]
      cases hir : endWithin (instructionLimit c.config.detect) (devices.flatMap (entry .instruction)) with
      | error e =>
        rw [verdict_instruction_error hdr hcodes hir]
        exact ⟨c₃, Action.runOn_bind_error (hir ▸ h₃ hlook) _, fun hok => (hfails e hok).elim⟩
      | ok ir =>
        rw [Action.runOn_bind_ok (hir ▸ h₃ hlook), verdict_lengths hdr hcodes hir]
        cases Scan.irLengths? ir idCodes.length expected? with
        | error fault =>
          exact ⟨{ c₃ with warnings := c₃.warnings.push (.split fault) }, rfl, fun hok => (hfails _ hok).elim⟩
        | ok lengths =>
          obtain ⟨hlook', hshort, -⟩ := endWithin_eq_ok.mp hir
          exact ⟨c₃, rfl, fun _ => ⟨rfl, hlook, hlook', hshort⟩⟩

/-- A scan answers the verdict on the devices that the chain reaches. If it finds them, they are left in bypass. -/
theorem Reaches.scan (h : c.Reaches sim) (hne : sim.devices ≠ []) (expected? : Option (List Nat)) :
    let answer := verdict c.config.detect (sim.devices.map Sim.Device.found) expected?
    ∃ c', (Chain.scan expected?).runOn c = (answer, c') ∧
      (answer.isOk → ∃ sim' : Sim.Chain, c'.Faces sim' ∧ sim'.state = .runTestIdle ∧
        sim'.devices.map Sim.Device.found = sim.devices.map Sim.Device.found ∧ ∀ d ∈ sim'.devices, d.Bypassed) := by
  intro answer
  obtain ⟨c₁, devices, clocks₁, h₁, k₁, hfound⟩ := h.reset
  have hreset : (devices.map Sim.Device.reset).map Sim.Device.found = sim.devices.map Sim.Device.found := by
    rw [List.map_map]
    exact hfound
  have hpresents := Sim.presents_reset .data devices
  obtain ⟨c₂, h₂, k₂⟩ := k₁.capturedPath rfl h.released (Sim.ne_nil_of_map_eq hne hreset) hpresents
    (dataLimit c.config.detect)
  dsimp only at h₂
  rw [hreset] at h₂
  by_cases hdata : Lookable (dataLimit c.config.detect)
  case neg =>
    have hnever : Lookable (dataLimit c.config.detect) →
        (Chain.capturedPath (instructionLimit c.config.detect) .instruction).runOn c₂ =
          (endWithin (instructionLimit c.config.detect)
            ((sim.devices.map Sim.Device.found).flatMap (entry .instruction)), c₂) := (absurd · hdata)
    obtain ⟨c', hrun, hc'⟩ := runOn_scan expected? h₁ h₂ hnever
    exact ⟨c', hrun, fun hok => absurd (hc' hok).2.1 hdata⟩
  obtain ⟨clocks₂, k₂⟩ := k₂ hdata
  generalize hdevices₂ : pushedTwice (dataLimit c.config.detect) .data
    (devices.map Sim.Device.reset) = devices₂ at k₂
  have hfound₂ : devices₂.map Sim.Device.found = sim.devices.map Sim.Device.found := by
    rw [← hdevices₂, found_pushedTwice, hreset]
  have hpresents₂ : Presents .instruction devices₂ := by
    rintro ⟨⟩
  obtain ⟨c₃, h₃, k₃⟩ := k₂.capturedPath rfl h.released (Sim.ne_nil_of_map_eq hne hfound₂) hpresents₂
    (instructionLimit c.config.detect)
  dsimp only at h₃
  rw [hfound₂] at h₃
  obtain ⟨c', hrun, hc'⟩ := runOn_scan expected? h₁ h₂ fun _ => h₃
  refine ⟨c', hrun, fun hok => ?_⟩
  obtain ⟨rfl, -, hinstruction, hshort⟩ := hc' hok
  obtain ⟨clocks₃, k₃⟩ := k₃ hinstruction
  refine ⟨_, k₃, rfl, (found_pushedTwice _ .instruction devices₂).trans hfound₂, ?_⟩
  have hpresents₃ := hpresents₂.pushed (List.replicate (instructionLimit c.config.detect) true)
  have hfits : (Sim.capturedPath .instruction
      (pushed .instruction (List.replicate (instructionLimit c.config.detect) true) devices₂)).length ≤
        instructionLimit c.config.detect := by
    rw [Sim.capturedPath_eq_entries hpresents₃, Sim.found_pushed, hfound₂]
    exact Nat.le_of_lt hshort
  intro d hd
  have hd : d ∈ pushedTwice (instructionLimit c.config.detect) .instruction devices₂ := hd
  rw [pushedTwice, Sim.pushed_ones hfits] at hd
  obtain ⟨d₀, -, rfl⟩ := List.mem_map.mp hd
  exact d₀.bypassed_updateIr

end Chain
end Jtag
