import Jtag.Proofs.Chain.Tape
import Jtag.Proofs.Detect.Accept
import Jtag.Proofs.Detect.Trial

/-! Measuring the path through simulated devices. Each trial adds its bits to the tape that the path holds the
    last piece of, so the answer of a whole measurement is a matter of arithmetic: it is the first length that
    the path exceeds by a whole number of trials, if these are few enough for the threshold. -/

namespace Jtag

open Detect

variable {c : Chain Sim.Pod} {column : Tap.Column} {devices : List Sim.Device} {tape : List Bool}

namespace Chain

open Sim (path)

/-! ### Trials -/

theorem Holds.probeOnce (h : c.Holds column devices tape) {length : Nat} {zeros pattern : Register} {v : List Bool}
    (hv : v ≠ []) (hzeros : zeros.bits = List.replicate length false)
    (hpattern : pattern.bits = v ++ List.replicate length false) {probe : Probe}
    (hprobe : probe.output.length = pattern.length) :
    ∃ c' probe', (Chain.probeOnce length zeros pattern probe).runOn c =
        (.ok (window (path column devices).length tape length v == v, probe'), c') ∧
      c'.Holds column devices (tape ++ trial length v) ∧ probe'.output.length = pattern.length := by
  obtain ⟨c₁, h₁, k₁⟩ := h.shift zeros
  obtain ⟨c₂, h₂, k₂⟩ := k₁.exchange pattern probe.output
  have htape : tape ++ zeros.bits ++ pattern.bits = tape ++ trial length v := by
    rw [hzeros, hpattern, trial, List.append_assoc, List.append_assoc]
  have hplace : (tape ++ zeros.bits).length = tape.length + length := by
    rw [hzeros, List.length_append, List.length_replicate]
  have hlength : pattern.length = length + v.length := by
    rw [Register.length, hpattern, List.length_append, List.length_replicate, Nat.add_comm]
  obtain ⟨hback, hwindow⟩ := shiftDown_back length hv h.reach
  rw [htape] at k₂
  rw [htape, hplace, hlength] at h₂
  generalize ((tape ++ trial length v).drop (tape.length + length - _)).take (length + v.length) = back
    at h₂ hback hwindow
  have hoverlay : (probe.output.overlay back).bits = back :=
    Bits.overlay_eq_of_length (hback.trans (hlength.symm.trans hprobe.symm))
  have hsame : (((probe.output.overlay back).shiftRight length).bits == pattern.bits) =
      (window (path column devices).length tape length v == v) := by
    show (Bits.shiftDown length (probe.output.overlay back).bits == _) = _
    rw [hoverlay, hwindow, hpattern, Bool.eq_iff_iff, beq_iff_eq, beq_iff_eq, List.append_left_inj]
  refine ⟨c₂, ⟨(probe.output.overlay back).shiftRight length, Probe.see probe.stuck (probe.output.overlay back).uniform?⟩,
    ?_, k₂, ?_⟩
  · rw [Chain.probeOnce, Action.runOn_bind_ok h₁, Action.runOn_bind_ok h₂, ← hsame]
    rfl
  · rw [Register.length_shiftRight, Register.length_overlay, hprobe]

theorem Holds.probeTrials (h : c.Holds column devices tape) {length : Nat} {zeros pattern : Register} {v : List Bool}
    (hv : v ≠ []) (hzeros : zeros.bits = List.replicate length false)
    (hpattern : pattern.bits = v ++ List.replicate length false) (count good : Nat) {probe : Probe}
    (hprobe : probe.output.length = pattern.length) :
    ∃ c' probe', (Chain.probeTrials length zeros pattern count good probe).runOn c =
        (.ok (good + goodTrials (path column devices).length length v count tape, probe'), c') ∧
      c'.Holds column devices (tape ++ trials length (List.replicate count v)) ∧
      probe'.output.length = pattern.length := by
  induction count generalizing c tape good probe with
  | zero => exact ⟨c, probe, rfl, by rwa [List.replicate_zero, trials, List.flatMap_nil, List.append_nil], hprobe⟩
  | succ count ih =>
    obtain ⟨c₁, probe₁, h₁, k₁, hprobe₁⟩ := h.probeOnce hv hzeros hpattern hprobe
    obtain ⟨c₂, probe₂, h₂, k₂, hprobe₂⟩ := ih k₁
      (good + (window (path column devices).length tape length v == v).toNat) hprobe₁
    refine ⟨c₂, probe₂, ?_, ?_, hprobe₂⟩
    · rw [Chain.probeTrials, Action.runOn_bind_ok h₁, h₂, goodTrials, Nat.add_assoc]
    · rw [List.replicate_succ, trials, List.flatMap_cons, ← List.append_assoc]
      exact k₂

/-! ### Patterns -/

/-- The patterns of a length count up as long as no carry leaves the width of the pattern. -/
theorem increment_pattern {width done length : Nat} {pattern : Register} (hdone : done + 1 < 2 ^ width)
    (hpattern : pattern.bits = Bits.ofNat width done ++ List.replicate length false) :
    pattern.increment.bits = Bits.ofNat width (done + 1) ++ List.replicate length false := by
  show Bits.succ pattern.bits = _
  rw [hpattern, ← Bits.ofNat_add (Nat.lt_of_succ_lt hdone), Bits.succ_ofNat, Bits.ofNat_add hdone]

/-- The patterns from the value `done + 1` on bring themselves back iff none of them fails too many trials. -/
theorem Holds.probePatterns {count threshold length width : Nat} {zeros : Register} (hwidth : 0 < width)
    (hthreshold : 0 < threshold) (hzeros : zeros.bits = List.replicate length false) (left : Nat) {done : Nat}
    (good : Nat) (hleft : done + left < 2 ^ width)
    {pattern : Register} (hpattern : 0 < left → pattern.bits = Bits.ofNat width (done + 1) ++ List.replicate length false)
    {probe : Probe} (hprobe : probe.output.length = width + length)
    (h : c.Holds column devices (tape ++ trials length (sent width count done))) :
    ∃ c' probe' good' tape', (Chain.probePatterns count threshold length zeros left pattern good probe).runOn c =
        (.ok (good', probe'), c') ∧ c'.Holds column devices tape' ∧
      (0 < good' ↔ (left = 0 → 0 < good) ∧
        ∀ i < left, threshold ≤ 100 * goodAt (path column devices).length length width count tape (done + i) / count) := by
  induction left generalizing c done good pattern probe with
  | zero => exact ⟨c, probe, good, _, rfl, h, by simp⟩
  | succ left ih =>
    have hbits := hpattern (Nat.succ_pos left)
    have hv : Bits.ofNat width (done + 1) ≠ [] := by
      rw [← List.length_pos_iff, Bits.length_ofNat]
      exact hwidth
    have hlength : pattern.length = width + length := by simp [Register.length, hbits]
    obtain ⟨c₁, probe₁, h₁, k₁, hprobe₁⟩ := h.probeTrials hv hzeros hbits count 0 (hprobe.trans hlength.symm)
    rw [Nat.zero_add] at h₁
    rw [List.append_assoc, ← trials_append, ← sent_succ] at k₁
    generalize hgood : goodTrials (path column devices).length length (Bits.ofNat width (done + 1)) count
      (tape ++ trials length (sent width count done)) = good₁ at h₁
    have hsplit : (∀ i < left + 1, threshold ≤
          100 * goodAt (path column devices).length length width count tape (done + i) / count) ↔
        threshold ≤ 100 * good₁ / count ∧ ∀ i < left, threshold ≤
          100 * goodAt (path column devices).length length width count tape (done + 1 + i) / count := by
      rw [Nat.forall_lt_succ_left, Nat.add_zero, goodAt, hgood]
      simp only [Nat.add_assoc, Nat.add_comm 1]
    rw [hsplit]
    by_cases hfails : 100 * good₁ / count < threshold
    · refine ⟨c₁, probe₁, 0, _, ?_, k₁, ?_⟩
      · rw [Chain.probePatterns, Action.runOn_bind_ok h₁]
        dsimp only
        rw [if_pos hfails]
        rfl
      · constructor
        · exact fun hpos => absurd hpos (Nat.lt_irrefl 0)
        · rintro ⟨-, hfirst, -⟩
          exact absurd hfirst (Nat.not_le_of_lt hfails)
    · have hpos : 0 < good₁ := by
        refine Nat.pos_of_ne_zero fun hnone => hfails ?_
        rwa [hnone, Nat.mul_zero, Nat.zero_div]
      have hnext : 0 < left →
          pattern.increment.bits = Bits.ofNat width (done + 1 + 1) ++ List.replicate length false :=
        fun hmore => increment_pattern (by omega) hbits
      obtain ⟨c₂, probe₂, good₂, tape₂, h₂, k₂, hiff⟩ := ih good₁ (by omega) hnext (hprobe₁.trans hlength) k₁
      refine ⟨c₂, probe₂, good₂, tape₂, ?_, k₂, ?_⟩
      · rw [Chain.probePatterns, Action.runOn_bind_ok h₁]
        dsimp only
        rw [if_neg hfails]
        exact h₂
      · rw [hiff]
        constructor
        · rintro ⟨-, hrest⟩
          exact ⟨fun hnone => absurd hnone (Nat.succ_ne_zero left), Nat.le_of_not_lt hfails, hrest⟩
        · rintro ⟨-, -, hrest⟩
          exact ⟨fun _ => hpos, hrest⟩

/-! ### Lengths -/

theorem runOn_filled {σ : Type} (c : Chain σ) {length : Nat} (hlength : 0 < length) (value : Bool) :
    ∃ register : Register, register.bits = List.replicate length value ∧
      (Action.ofExcept ((Register.filled? length value).mapError .register) : ChainAction σ Register).runOn c =
        (.ok register, c) := by
  have hne : List.replicate length value ≠ [] := by
    rw [← List.length_pos_iff, List.length_replicate]
    exact hlength
  refine ⟨⟨_, hne⟩, rfl, ?_⟩
  rw [Action.runOn_ofExcept, Register.filled?, Register.ofBits?, dif_neg hne]
  rfl

theorem runOn_zeros {σ : Type} (c : Chain σ) {length : Nat} (hlength : 0 < length) :
    ∃ zeros : Register, zeros.bits = List.replicate length false ∧
      (Action.ofExcept ((Register.zeros? length).mapError .register) : ChainAction σ Register).runOn c = (.ok zeros, c) :=
  runOn_filled c hlength false

variable {detect : DetectConfig}

/-- The search over the lengths from `length` on, which does not go past the length of the path. -/
theorem Holds.probeLengths (hwidth : 0 < detect.patternBits)
    (hthreshold : 0 < detect.thresholdPercent ∧ detect.thresholdPercent ≤ 100)
    (hbound : (path column devices).length < detect.reach) (count : Nat) {length : Nat} (hlength : 0 < length)
    (hshort : length ≤ (path column devices).length) (stuck : Option (Option Bool)) (h : c.Holds column devices tape) :
    ∃ c' stuck' tape', (Chain.probeLengths detect count length stuck).runOn c =
        (.ok ((List.range' length count).find? fun length => Accepts detect (path column devices).length length, stuck'),
          c') ∧ c'.Holds column devices tape' := by
  induction count generalizing c length stuck tape with
  | zero => exact ⟨c, stuck, tape, rfl, h⟩
  | succ count ih =>
    obtain ⟨zeros, hzeros, hblank⟩ := runOn_zeros c hlength
    obtain ⟨output, houtput, hblank'⟩ := runOn_zeros c (Nat.add_pos_left hlength detect.patternBits)
    have htwo : 2 ≤ 2 ^ detect.patternBits := Nat.le_self_pow (by omega) 2
    have hfirst : output.increment.bits =
        Bits.ofNat detect.patternBits (0 + 1) ++ List.replicate length false := by
      refine increment_pattern (by omega) ?_
      rw [houtput, Bits.ofNat_zero, List.replicate_append_replicate, Nat.add_comm]
    have hprobe : output.length = detect.patternBits + length := by
      rw [Register.length, houtput, List.length_replicate, Nat.add_comm]
    have hstart : c.Holds column devices
        (tape ++ trials length (sent detect.patternBits (max detect.testCount 1) 0)) := by
      rw [show sent _ _ 0 = [] from rfl, trials, List.flatMap_nil, List.append_nil]
      exact h
    obtain ⟨c₁, probe, good, tape₁, h₁, k₁, hgood⟩ := hstart.probePatterns hwidth hthreshold.1 hzeros
      (1 <<< detect.patternBits - 1) 0 (by rw [Nat.one_shiftLeft]; omega) (fun _ => hfirst)
      (show (Probe.mk output stuck).output.length = _ from hprobe)
    have haccepts : 0 < good ↔ Accepts detect (path column devices).length length := by
      have hwide : detect.patternBits + 2 ≤ 2 * length + detect.patternBits := by omega
      have hpasses := passes_iff hlength hwidth hshort h.reach
        (Nat.lt_of_lt_of_le hbound (Nat.mul_le_mul_left _ hwide)) hthreshold.1
      rw [accepts_iff hwidth]
      simp only [Passes]
      rw [← hpasses, hgood, Nat.one_shiftLeft]
      simp only [Nat.zero_add]
      exact ⟨And.right, fun hall => ⟨by omega, hall⟩⟩
    by_cases hpos : 0 < good
    · refine ⟨c₁, probe.stuck, tape₁, ?_, k₁⟩
      rw [Chain.probeLengths, Action.runOn_bind_ok hblank, Action.runOn_bind_ok hblank', Action.runOn_bind_ok h₁,
        List.range'_succ, List.find?_cons, decide_eq_true (haccepts.mp hpos)]
      dsimp only
      rw [if_pos hpos]
      rfl
    · have hrejects : ¬ Accepts detect (path column devices).length length := mt haccepts.mpr hpos
      have hlonger : length ≠ (path column devices).length := by
        intro hsame
        exact hrejects (hsame ▸ accepts_self hwidth hthreshold.2 _)
      obtain ⟨c₂, stuck₂, tape₂, h₂, k₂⟩ := ih (Nat.succ_pos length) (by omega) probe.stuck k₁
      refine ⟨c₂, stuck₂, tape₂, ?_, k₂⟩
      rw [Chain.probeLengths, Action.runOn_bind_ok hblank, Action.runOn_bind_ok hblank', Action.runOn_bind_ok h₁,
        List.range'_succ, List.find?_cons, decide_eq_false hrejects]
      dsimp only
      rw [if_neg hpos]
      exact h₂

/-- The answer of a measurement, as a first length that passes. -/
theorem Holds.detectLength (h : c.Holds column devices tape) (hpos : 0 < (path column devices).length)
    (hwidth : 0 < c.config.detect.patternBits ∧ c.config.detect.patternBits < wordBits)
    (hthreshold : 0 < c.config.detect.thresholdPercent ∧ c.config.detect.thresholdPercent ≤ 100)
    (hbound : (path column devices).length < c.config.detect.reach) :
    ∃ c' tape', Chain.detectLength.runOn c =
        (.ok ((List.range' 1 c.config.detect.maxRegisterLength).find? fun length =>
          Accepts c.config.detect (path column devices).length length), c') ∧
      c'.Holds column devices tape' := by
  generalize hdetect : c.config.detect = detect at *
  obtain ⟨c₁, stuck, tape₁, h₁, k₁⟩ := h.probeLengths hwidth.1 hthreshold hbound detect.maxRegisterLength
    Nat.one_pos hpos none
  have hvalid : ¬ (detect.patternBits = 0 ∨ wordBits ≤ detect.patternBits) := by omega
  generalize (List.range' 1 detect.maxRegisterLength).find? _ = found at h₁ ⊢
  refine exists_comm.mpr ⟨tape₁, ?_⟩
  rw [Chain.detectLength, Action.runOn_bind_ok (Action.runOn_get c), hdetect]
  dsimp only
  rw [if_neg hvalid, Action.runOn_bind_ok h₁]
  dsimp only
  split
  · split
    · exact ⟨_, rfl, k₁.withWarnings _⟩
    · exact ⟨c₁, rfl, k₁⟩
  · exact ⟨c₁, rfl, k₁⟩

/-! ### What a measurement finds -/

variable {sim : Sim.Chain}

/-- A path in which every device has a bit to show can be measured, and it stays in the devices. -/
theorem Faces.measured (h : c.Faces sim) (hopen : sim.Open column)
    (hdevices : ∀ d ∈ sim.entered column, d.row column ≠ []) (hpos : 0 < (sim.registerPath column).length)
    (hwidth : 0 < c.config.detect.patternBits ∧ c.config.detect.patternBits < wordBits)
    (hthreshold : 0 < c.config.detect.thresholdPercent ∧ c.config.detect.thresholdPercent ≤ 100)
    (hbound : (sim.registerPath column).length < c.config.detect.reach) :
    ∃ c' tape, Chain.detectLength.runOn c = (.ok ((List.range' 1 c.config.detect.maxRegisterLength).find? fun length =>
        Accepts c.config.detect (sim.registerPath column).length length), c') ∧
      c'.Holds column (sim.entered column) tape := by
  have hne : sim.entered column ≠ [] := by
    intro hnone
    rw [Sim.Chain.registerPath, hnone] at hpos
    exact Nat.lt_irrefl 0 hpos
  exact (h.holds hopen (Sim.shows_of_forall hne hdevices)).detectLength hpos hwidth hthreshold hbound

theorem Faces.detectLength (h : c.Faces sim) (hopen : sim.Open column)
    (hdevices : ∀ d ∈ sim.entered column, d.row column ≠ []) (hpos : 0 < (sim.registerPath column).length)
    (hwidth : 0 < c.config.detect.patternBits ∧ c.config.detect.patternBits < wordBits)
    (hthreshold : 0 < c.config.detect.thresholdPercent ∧ c.config.detect.thresholdPercent ≤ 100)
    (hbound : (sim.registerPath column).length < c.config.detect.reach) :
    ∃ c', Chain.detectLength.runOn c = (.ok ((List.range' 1 c.config.detect.maxRegisterLength).find? fun length =>
      Accepts c.config.detect (sim.registerPath column).length length), c') := by
  obtain ⟨c', -, hrun, -⟩ := h.measured hopen hdevices hpos hwidth hthreshold hbound
  exact ⟨c', hrun⟩

/-- If all trials have to bring their pattern back, a length is accepted only if it is the one of the path. -/
theorem find?_accepts_full {detect : DetectConfig} {n : Nat} (hpos : 0 < n) (hwidth : 0 < detect.patternBits)
    (hthreshold : detect.thresholdPercent = 100) :
    ((List.range' 1 detect.maxRegisterLength).find? fun length => Accepts detect n length) =
      if n ≤ detect.maxRegisterLength then some n else none :=
  find?_accepts detect hwidth (Nat.le_of_eq hthreshold) hpos
    (fun _ _ hlength => not_accepts_of_full hwidth hthreshold hlength) detect.maxRegisterLength

/-- If all trials have to bring their pattern back, the length of the path is found as soon as it is tried. -/
theorem Faces.detectLength_full (h : c.Faces sim) (hopen : sim.Open column)
    (hdevices : ∀ d ∈ sim.entered column, d.row column ≠ []) (hpos : 0 < (sim.registerPath column).length)
    (hwidth : 0 < c.config.detect.patternBits ∧ c.config.detect.patternBits < wordBits)
    (hthreshold : c.config.detect.thresholdPercent = 100)
    (hbound : (sim.registerPath column).length < c.config.detect.reach) :
    ∃ c', Chain.detectLength.runOn c =
      (.ok (if (sim.registerPath column).length ≤ c.config.detect.maxRegisterLength then
        some (sim.registerPath column).length else none), c') := by
  rw [← find?_accepts_full hpos hwidth.1 hthreshold]
  exact h.detectLength hopen hdevices hpos hwidth (by omega) hbound

/-- Without noise, and if all trials have to bring their pattern back, the length that is found is the one of the
    path. This holds for every path that the limit of the default configuration admits. -/
theorem detectLength_exact (h : c.Faces sim) (hopen : sim.Open column)
    (hdevices : ∀ d ∈ sim.entered column, d.row column ≠ []) (hpos : 0 < (sim.registerPath column).length)
    (hwidth : 0 < c.config.detect.patternBits ∧ c.config.detect.patternBits < wordBits)
    (hthreshold : c.config.detect.thresholdPercent = 100)
    (hbound : (sim.registerPath column).length < c.config.detect.reach) :
    (∃ c', Chain.detectLength.runOn c =
      (.ok (if (sim.registerPath column).length ≤ c.config.detect.maxRegisterLength then
        some (sim.registerPath column).length else none), c')) ∧
    ∀ length ≤ DetectConfig.default.maxRegisterLength, length < DetectConfig.default.reach := by
  refine ⟨h.detectLength_full hopen hdevices hpos hwidth hthreshold hbound, fun length hlength => ?_⟩
  exact Nat.lt_of_le_of_lt hlength (by decide)

/-- Seven bits of two devices. -/
theorem detectLength_exact_seven :
    let sim : Sim.Chain := ⟨[Sim.Device.new 4, Sim.Device.new 3], .scan .instruction .capture, .resetLines, 0⟩
    ∃ c c' : Chain Sim.Pod, (c.Faces sim ∧ sim.Open .instruction ∧ (∀ d ∈ sim.entered .instruction, d.irShift ≠ []) ∧
        sim.registerPath .instruction = [true, false, false, false, true, false, false] ∧ c.config = .default) ∧
      Chain.detectLength.runOn c = (.ok (some 7), c') := by
  intro sim
  have hfaces := faces_new Config.default sim .combineTransfers
  have hopen : sim.Open .instruction := ⟨by decide, .inl rfl⟩
  have hdevices : ∀ d ∈ sim.entered .instruction, d.irShift ≠ [] := by decide
  obtain ⟨⟨c', hrun⟩, -⟩ := detectLength_exact hfaces hopen hdevices (by decide) (by decide) rfl (by decide)
  exact ⟨_, c', ⟨hfaces, hopen, hdevices, by decide, rfl⟩, hrun⟩

/-! ### Some trials may fail -/

/-- The same chain, asking for one trial of each pattern, which has to bring it back. -/
def strict (c : Chain Sim.Pod) : Chain Sim.Pod :=
  { c with config := { c.config with detect := { c.config.detect with testCount := 1, thresholdPercent := 100 } } }

theorem Faces.strict (h : c.Faces sim) : c.strict.Faces sim := h.same rfl rfl

/-- More trials than one make a trial periodic, and a threshold below all of them lets its first ones fail. So the
    length that is found is the first one that the path exceeds by few enough whole trials, and it is the length
    of the path, which one trial always finds, only where there is no such shorter one. -/
theorem detectLength_tolerant (h : c.Faces sim) (hopen : sim.Open column)
    (hdevices : ∀ d ∈ sim.entered column, d.row column ≠ []) (hpos : 0 < (sim.registerPath column).length)
    (hwidth : c.config.detect.patternBits = 8)
    (hlimit : (sim.registerPath column).length ≤ c.config.detect.maxRegisterLength ∧
      c.config.detect.maxRegisterLength ≤ 1024)
    (hthreshold : 0 < c.config.detect.thresholdPercent ∧ c.config.detect.thresholdPercent ≤ 100) :
    let n := (sim.registerPath column).length
    ∃ c₁ c₂ length, Chain.detectLength.runOn c = (.ok (some length), c₁) ∧
      Chain.detectLength.runOn c.strict = (.ok (some n), c₂) ∧ 0 < length ∧
      (∃ late, Passes c.config.detect n length late) ∧
      (∀ shorter late, 0 < shorter → shorter < length → ¬ Passes c.config.detect n shorter late) ∧
      (length = n ↔ ∀ shorter late, 0 < shorter → 0 < late → ¬ Passes c.config.detect n shorter late) := by
  intro n
  have hwide : 0 < c.config.detect.patternBits ∧ c.config.detect.patternBits < wordBits := by
    rw [hwidth]
    decide
  have haccepts (length : Nat) : Accepts c.config.detect n length ↔ ∃ late, Passes c.config.detect n length late :=
    accepts_iff hwide.1
  have hbound : n < c.config.detect.reach := by
    rw [DetectConfig.reach, hwidth]
    omega
  have hbound' : n < c.strict.config.detect.reach := by
    show n < ((2 ^ c.config.detect.patternBits - 2) * max 1 1 + 1) * (c.config.detect.patternBits + 2)
    rw [hwidth]
    omega
  obtain ⟨c₁, h₁⟩ := h.detectLength hopen hdevices hpos hwide hthreshold hbound
  obtain ⟨c₂, h₂⟩ := h.strict.detectLength_full hopen hdevices hpos hwide rfl hbound'
  obtain ⟨length, hfound, hlength, haccepted, hshorter⟩ :=
    exists_find?_accepts hwide.1 hthreshold.2 hpos hlimit.1
  have htried : n ≤ c.strict.config.detect.maxRegisterLength := hlimit.1
  rw [hfound] at h₁
  rw [if_pos htried] at h₂
  have hrejected : ∀ shorter late, 0 < shorter → shorter < length → ¬ Passes c.config.detect n shorter late :=
    fun shorter late hlow hlt hpasses => hshorter shorter hlow hlt ((haccepts shorter).mpr ⟨late, hpasses⟩)
  refine ⟨c₁, c₂, length, h₁, h₂, hlength, (haccepts length).mp haccepted, hrejected, ?_⟩
  constructor
  · rintro hsame shorter late hlow hlate hpasses
    exact hrejected shorter late hlow (hsame ▸ hpasses.lt hwide.1 hlate) hpasses
  · intro hnone
    obtain ⟨late, hpasses⟩ := (haccepts length).mp haccepted
    have hlate : late = 0 := Nat.eq_zero_of_not_pos fun hlate => hnone length late hlength hlate hpasses
    have hn := hpasses.1
    rw [hlate, Nat.zero_mul, Nat.add_zero] at hn
    exact hn.symm

/-- A path of ten bits is no whole trial longer than any other length, so that eight trials with a threshold of
    75 percent do find it. -/
theorem detectLength_tolerant_ten :
    let sim : Sim.Chain := ⟨[Sim.Device.new 4, Sim.Device.new 6], .scan .instruction .capture, .resetLines, 0⟩
    ∃ c c' : Chain Sim.Pod, (c.Faces sim ∧ sim.Open .instruction ∧ (∀ d ∈ sim.entered .instruction, d.irShift ≠ []) ∧
        (sim.registerPath .instruction).length = 10 ∧ c.config = ⟨.default, ⟨1024, 8, 8, 75, 8⟩⟩) ∧
      Chain.detectLength.runOn c = (.ok (some 10), c') := by
  intro sim
  have hfaces := faces_new ⟨.default, ⟨1024, 8, 8, 75, 8⟩⟩ sim .combineTransfers
  have hopen : sim.Open .instruction := ⟨by decide, .inl rfl⟩
  have hdevices : ∀ d ∈ sim.entered .instruction, d.irShift ≠ [] := by decide
  obtain ⟨c₁, -, length, hrun, -, -, -, -, hiff⟩ := detectLength_tolerant hfaces hopen hdevices (by decide) rfl
    (by decide) (by decide)
  have hten : length = 10 := by
    refine hiff.mpr fun shorter late hlow hlate hpasses => ?_
    have hperiod : 2 * shorter + 8 ≤ late * (2 * shorter + 8) := Nat.le_mul_of_pos_left _ hlate
    have hn : 10 = shorter + late * (2 * shorter + 8) := hpasses.1
    omega
  exact ⟨_, c₁, ⟨hfaces, hopen, hdevices, by decide, rfl⟩, hten ▸ hrun⟩

/-- A path of eleven bits is one trial longer than one bit. Seven of eight trials of one bit bring each pattern
    back, which a threshold of 75 percent takes for the length of the path. -/
theorem detectLength_eleven :
    let sim : Sim.Chain := ⟨[Sim.Device.new 11], .scan .instruction .capture, .resetLines, 0⟩
    ∃ c c₁ c₂ : Chain Sim.Pod, (c.Faces sim ∧ sim.Open .instruction ∧ (∀ d ∈ sim.entered .instruction, d.irShift ≠ []) ∧
        (sim.registerPath .instruction).length = 11 ∧ c.config = ⟨.default, ⟨1024, 8, 8, 75, 8⟩⟩) ∧
      Chain.detectLength.runOn c = (.ok (some 1), c₁) ∧ Chain.detectLength.runOn c.strict = (.ok (some 11), c₂) := by
  intro sim
  have hfaces := faces_new ⟨.default, ⟨1024, 8, 8, 75, 8⟩⟩ sim .combineTransfers
  have hopen : sim.Open .instruction := ⟨by decide, .inl rfl⟩
  have hdevices : ∀ d ∈ sim.entered .instruction, d.irShift ≠ [] := by decide
  obtain ⟨c₁, h₁⟩ := hfaces.detectLength hopen hdevices (by decide) (by decide) (by decide) (by decide)
  obtain ⟨c₂, h₂⟩ := hfaces.strict.detectLength hopen hdevices (by decide) (by decide) (by decide) (by decide)
  have hone : ((List.range' 1 1024).find? fun length => Accepts ⟨1024, 8, 8, 75, 8⟩ 11 length) = some 1 := by decide
  have heleven : ((List.range' 1 1024).find? fun length => Accepts ⟨1024, 8, 1, 100, 8⟩ 11 length) = some 11 := by
    decide
  refine ⟨_, c₁, c₂, ⟨hfaces, hopen, hdevices, by decide, rfl⟩, h₁.trans ?_, h₂.trans ?_⟩
  · exact congrArg (fun found => (Except.ok found, c₁)) hone
  · exact congrArg (fun found => (Except.ok found, c₂)) heleven

end Chain
end Jtag
