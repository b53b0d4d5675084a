import Mathlib.Order.Nat
import Jtag.Proofs.Chain.Verdict
import Jtag.Proofs.Detect.Measure

/-! The bytes of the data path after a reset. Every byte is a shift of its own, but all of them go on with one scan:
    what they bring back are the pieces of the path and of the zeros behind it, none left out and none twice. The
    reading that counts zero bytes ends with the first run of them. -/

namespace Jtag

/-! ### Endless bytes -/

namespace Bits

/-- `width` bits from the place `start` on, with endless zeros behind the last one. -/
def window (bits : List Bool) (start width : Nat) : List Bool :=
  (List.range width).map fun k => bits.getD (start + k) false

@[simp] theorem length_window (bits : List Bool) (start width : Nat) : (window bits start width).length = width := by
  rw [window, List.length_map, List.length_range]

theorem getElem_window {bits : List Bool} {start width k : Nat} (h : k < (window bits start width).length) :
    (window bits start width)[k] = bits[start + k]?.getD false := by
  simp only [window, List.getElem_map, List.getElem_range, List.getD_eq_getElem?_getD]

/-- A piece of what is padded with enough zeros. -/
theorem take_drop_padded (bits : List Bool) {start width zeros : Nat} (h : start + width ≤ bits.length + zeros) :
    ((bits ++ List.replicate zeros false).drop start).take width = window bits start width := by
  -- Every place of the piece lies among the bits or among the zeros behind them.
  refine List.ext_getElem ?_ fun k hk hk' => ?_
  · rw [List.length_take, List.length_drop, List.length_append, List.length_replicate, length_window]
    omega
  · rw [List.getElem_take, List.getElem_drop, getElem_window, List.getElem_append]
    split
    · rename_i hin
      rw [List.getElem?_eq_getElem hin]
      rfl
    · rename_i hout
      rw [List.getElem?_eq_none (Nat.le_of_not_lt hout), List.getElem_replicate]
      rfl

theorem window_eq_replicate {bits : List Bool} {start : Nat} (h : bits.length ≤ start) (width : Nat) :
    window bits start width = List.replicate width false := by
  refine List.ext_getElem (by simp) fun k hk hk' => ?_
  rw [getElem_window, List.getElem?_eq_none (by omega), List.getElem_replicate]
  rfl

/-- Byte `i` of some bits with endless zeros behind them, its first bit least significant. -/
def byte (bits : List Bool) (i : Nat) : UInt8 := UInt8.ofNat (toNat (window bits (8 * i) 8))

theorem byte_eq_zero {bits : List Bool} {i : Nat} (h : bits.length ≤ 8 * i) : byte bits i = 0 := by
  rw [byte, window_eq_replicate h]
  rfl

theorem toUInt8_low64 {bits : List Bool} (h : bits.length = 8) : (low64 bits).toUInt8 = UInt8.ofNat (toNat bits) := by
  rw [low64, List.take_of_length_le (by omega), UInt64.toUInt8_ofNat']

end Bits

/-! ### Runs of zero bytes -/

variable {bytes : Nat → UInt8} {start : Nat}

/-- Four zero bytes in a row. -/
def ZeroRun (bytes : Nat → UInt8) (start : Nat) : Prop := ∀ k < 4, bytes (start + k) = 0

instance (bytes : Nat → UInt8) : DecidablePred (ZeroRun bytes) := fun _ => inferInstanceAs (Decidable (∀ k < 4, _))

/-- No run of four zero bytes starts before this one. -/
structure FirstZeroRun (bytes : Nat → UInt8) (start : Nat) : Prop where
  zeros : ZeroRun bytes start
  first : ∀ earlier < start, ¬ ZeroRun bytes earlier

theorem FirstZeroRun.unique {other : Nat} (h : FirstZeroRun bytes start) (hother : FirstZeroRun bytes other) :
    start = other :=
  Nat.le_antisymm (Nat.le_of_not_lt fun hlt => h.first other hlt hother.zeros)
    (Nat.le_of_not_lt fun hlt => hother.first start hlt h.zeros)

theorem exists_firstZeroRun (bits : List Bool) : ∃ start, FirstZeroRun (Bits.byte bits) start := by
  -- At the latest a run starts where there is nothing left of the bits.
  have hruns : ∃ start, ZeroRun (Bits.byte bits) start :=
    ⟨bits.length, fun k _ => Bits.byte_eq_zero (by omega)⟩
  exact ⟨Nat.find hruns, Nat.find_spec hruns, fun _ => Nat.find_min hruns⟩

/-- How many bytes in a row are zero right before byte `i`. -/
def zerosBefore (bytes : Nat → UInt8) : Nat → Nat
  | 0 => 0
  | i + 1 => if bytes i = 0 then zerosBefore bytes i + 1 else 0

theorem zerosBefore_le (bytes : Nat → UInt8) (i : Nat) : zerosBefore bytes i ≤ i := by
  induction i with
  | zero => exact Nat.le_refl 0
  | succ i ih =>
    rw [zerosBefore]
    split <;> omega

/-- The counter counts a run if all its bytes are zero. -/
theorem le_zerosBefore_iff (bytes : Nat → UInt8) (start n : Nat) :
    n ≤ zerosBefore bytes (start + n) ↔ ∀ k < n, bytes (start + k) = 0 := by
  induction n with
  | zero => exact ⟨fun _ _ hk => absurd hk (Nat.not_lt_zero _), fun _ => Nat.zero_le _⟩
  | succ n ih =>
    rw [Nat.forall_lt_succ_right, ← ih, ← Nat.add_assoc, zerosBefore]
    split
    · rename_i hzero
      exact ⟨fun h => ⟨Nat.le_of_succ_le_succ h, hzero⟩, fun h => Nat.succ_le_succ h.1⟩
    · rename_i hother
      exact ⟨fun h => absurd h (Nat.not_succ_le_zero n), fun h => absurd h.2 hother⟩

/-- Up to the end of the first run the counter reaches four there and nowhere else. -/
theorem FirstZeroRun.zerosBefore_eq_iff (h : FirstZeroRun bytes start) {i : Nat} (hi : i ≤ start + 4) :
    zerosBefore bytes i = 4 ↔ i = start + 4 := by
  have hbelow : ∀ j < start + 4, zerosBefore bytes j < 4 := by
    intro j hj
    refine Nat.lt_of_not_le fun hfour => ?_
    obtain ⟨earlier, rfl⟩ := Nat.exists_eq_add_of_le' (Nat.le_trans hfour (zerosBefore_le bytes j))
    exact h.first earlier (by omega) ((le_zerosBefore_iff bytes earlier 4).mp hfour)
  have hreaches : 4 ≤ zerosBefore bytes (start + 4) := (le_zerosBefore_iff bytes start 4).mpr h.zeros
  have hstep : zerosBefore bytes (start + 4) ≤ zerosBefore bytes (start + 3) + 1 := by
    rw [zerosBefore]
    split <;> omega
  have hthree := hbelow (start + 3) (by omega)
  constructor
  · intro hfour
    refine Nat.le_antisymm hi (Nat.le_of_not_lt fun hlt => ?_)
    exact absurd hfour (Nat.ne_of_lt (hbelow i hlt))
  · rintro rfl
    omega

namespace Chain

variable {c : Chain Sim.Pod} {sim : Sim.Chain} {column : Tap.Column} {devices : List Sim.Device} {bits : List Bool}

/-! ### One byte -/

/-- A byte is the next piece of the tape, and the zeros that go in for it are the end of the tape. -/
theorem Holds.exchangeByte {i : Nat} (h : c.Holds column devices (bits ++ List.replicate (8 * i) false))
    (hbits : bits.length = (Sim.path column devices).length) {blank : Register}
    (hblank : blank.bits = List.replicate 8 false) {output : Register} (houtput : output.length = 8) :
    ∃ c' next, (Chain.exchange blank output .shift).runOn c = (.ok next, c') ∧ next.length = 8 ∧
      next.low64.toUInt8 = Bits.byte bits i ∧
      c'.Holds column devices (bits ++ List.replicate (8 * (i + 1)) false) := by
  obtain ⟨c', hrun, k⟩ := h.exchange blank output
  -- The path lags behind the tape by the zeros that went in, so it is at the first bit of this byte.
  have hplace : (bits ++ List.replicate (8 * i) false).length - (Sim.path column devices).length = 8 * i := by
    rw [List.length_append, List.length_replicate, hbits, Nat.add_sub_cancel_left]
  have hwidth : blank.length = 8 := by rw [Register.length, hblank, List.length_replicate]
  have htape : bits ++ List.replicate (8 * i) false ++ blank.bits = bits ++ List.replicate (8 * (i + 1)) false := by
    rw [hblank, List.append_assoc, List.replicate_append_replicate, Nat.mul_succ]
  rw [htape] at k hrun
  rw [hplace, hwidth, Bits.take_drop_padded bits (by omega)] at hrun
  have hnext : (output.overlay (Bits.window bits (8 * i) 8)).bits = Bits.window bits (8 * i) 8 :=
    Bits.overlay_eq_of_length (by rw [Bits.length_window]; exact houtput.symm)
  refine ⟨c', _, hrun, ?_, ?_, k⟩
  · rw [Register.length, hnext, Bits.length_window]
  · rw [Register.low64, hnext, Bits.toUInt8_low64 (Bits.length_window ..)]
    rfl

/-! ### All bytes -/

/-- A reading from byte `i` on. The counter stops it behind the byte before `last`, if that comes before the limit. -/
theorem Holds.readBytes {stopping : Bool} {limit last : Nat}
    (hstop : ∀ i < limit, i < last → ((stopping && zerosBefore (Bits.byte bits) (i + 1) = zeroRun) ↔ i + 1 = last))
    (hbits : bits.length = (Sim.path column devices).length) {blank : Register}
    (hblank : blank.bits = List.replicate 8 false) (n : Nat) {i : Nat} (hn : i + n = limit) (hi : i < last)
    {output : Register} (houtput : output.length = 8)
    (h : c.Holds column devices (bits ++ List.replicate (8 * i) false)) :
    ∃ c', (Chain.readBytes stopping blank n (zerosBefore (Bits.byte bits) i) output).runOn c =
      (.ok ((List.range' i (min n (last - i))).map (Bits.byte bits)), c') := by
  -- On the bytes that are left: each puts eight zeros on the tape, and the counter goes on from the one before it.
  induction n generalizing i c output with
  | zero =>
    rw [Nat.zero_min]
    exact ⟨c, rfl⟩
  | succ n ih =>
    obtain ⟨c₁, next, h₁, hnext, hbyte, k₁⟩ := h.exchangeByte hbits hblank houtput
    have hcount : (if Bits.byte bits i = 0 then zerosBefore (Bits.byte bits) i + 1 else 0) =
        zerosBefore (Bits.byte bits) (i + 1) := rfl
    have hlast := hstop i (by omega) hi
    rw [Chain.readBytes, Action.runOn_bind_ok h₁]
    dsimp only
    rw [hbyte, hcount]
    by_cases hend : i + 1 = last
    · rw [if_pos (hlast.mpr hend), show min (n + 1) (last - i) = 1 by omega]
      exact ⟨c₁, rfl⟩
    · obtain ⟨c₂, h₂⟩ := ih (by omega) (by omega) hnext k₁
      rw [if_neg (mt hlast.mp hend), Action.runOn_bind_ok h₂,
        show min (n + 1) (last - i) = min n (last - (i + 1)) + 1 by omega, List.range'_succ]
      exact ⟨c₂, rfl⟩

/-! ### Reading after a reset -/

/-- What devices show on their data path after a reset: the identification code, or a zero of those without. -/
def resetPath (devices : List Sim.Device) : List Bool := devices.flatMap fun d => Scan.dataEntry d.idCode?

/-- A pulse of the test reset line and a capture put the path of the reset devices on a tape. -/
theorem Reaches.resetCapture (h : c.Reaches sim) (hne : sim.devices ≠ []) :
    ∃ c₁ c₂ devices, Chain.trstReset.runOn c = (.ok (), c₁) ∧ (Chain.capture .data).runOn c₁ = (.ok (), c₂) ∧
      c₂.Holds .data devices (resetPath sim.devices) ∧
      (resetPath sim.devices).length = (Sim.path .data devices).length := by
  obtain ⟨strategy, hdrives⟩ := h.drives
  obtain ⟨c₁, h₁, k₁, -⟩ := hdrives.trstReset
  obtain ⟨c₂, clocks, h₂, k₂⟩ := k₁.capture rfl (pulsed_released sim) .data
  have hpresents := Sim.presents_reset .data sim.devices
  have hshows := hpresents.shows (List.map_eq_nil_iff.not.mpr hne)
  have hpath : Sim.capturedPath .data (sim.devices.map Sim.Device.reset) = resetPath sim.devices := by
    rw [Sim.capturedPath_eq_entries hpresents, List.map_map, List.flatMap_map]
    rfl
  have hheld := (Sim.path_captured .data (sim.devices.map Sim.Device.reset)).trans hpath
  refine ⟨c₁, c₂, _, h₁, h₂, ?_, (congrArg List.length hheld).symm⟩
  rw [← hheld]
  exact k₂.holds ⟨pulsed_released sim, .inl rfl⟩ hshows

/-- Reading after a reset, as far as the counter lets it go. -/
theorem Reaches.idCodeBytes (h : c.Reaches sim) (hne : sim.devices ≠ []) (limit? : Option Nat) {last : Nat}
    (hlast : 0 < last)
    (hstop : ∀ i < limit?.getD byteLimit, i < last →
      ((limit?.isNone && zerosBefore (Bits.byte (resetPath sim.devices)) (i + 1) = zeroRun) ↔ i + 1 = last)) :
    ∃ c', (Chain.idCodeBytes limit?).runOn c =
      (.ok ((List.range (min (limit?.getD byteLimit) last)).map (Bits.byte (resetPath sim.devices))), c') := by
  obtain ⟨blank, hblank, h₀⟩ := runOn_zeros c (show 0 < 8 by decide)
  obtain ⟨c₁, c₂, devices, h₁, h₂, k₂, hbits⟩ := h.resetCapture hne
  have hwidth : blank.length = 8 := by rw [Register.length, hblank, List.length_replicate]
  have hstart : c₂.Holds .data devices (resetPath sim.devices ++ List.replicate (8 * 0) false) := by
    rw [Nat.mul_zero, List.replicate_zero, List.append_nil]
    exact k₂
  obtain ⟨c₃, h₃⟩ := hstart.readBytes hstop hbits hblank _ (Nat.zero_add _) hlast hwidth
  rw [Nat.sub_zero, ← List.range_eq_range'] at h₃
  refine ⟨c₃, ?_⟩
  rw [Chain.idCodeBytes, Action.runOn_bind_ok h₀, Action.runOn_bind_ok h₁, Action.runOn_bind_ok h₂]
  exact h₃

/-- Reading the bytes of a chain resets it and answers its data path, cut into bytes, with endless zeros behind it:
    as many bytes as asked for, or else those up to the end of the first run of four zero bytes, at most 1000. -/
theorem idCodeBytes_reset_path (h : c.Reaches sim) (hne : sim.devices ≠ []) :
    let bytes := Bits.byte (resetPath sim.devices)
    (∀ count, ∃ c', (idCodeBytes (some count)).runOn c = (.ok ((List.range count).map bytes), c')) ∧
      ∃ start, FirstZeroRun bytes start ∧
        ∃ c', (idCodeBytes none).runOn c = (.ok ((List.range (min 1000 (start + 4))).map bytes), c') := by
  intro bytes
  constructor
  case left =>
    intro count
    -- Nothing is counted, and the end lies behind the limit.
    have hrun := h.idCodeBytes hne (some count) (Nat.succ_pos count) fun i hi _ =>
      ⟨fun hstops => absurd hstops Bool.false_ne_true, fun hend => absurd (Nat.succ.inj hend) (Nat.ne_of_lt hi)⟩
    rwa [Option.getD_some, Nat.min_eq_left (Nat.le_succ count)] at hrun
  case right =>
    obtain ⟨start, hfirst⟩ := exists_firstZeroRun (resetPath sim.devices)
    refine ⟨start, hfirst, h.idCodeBytes hne none (Nat.succ_pos (start + 3)) fun i _ hi => ?_⟩
    rw [Option.isNone_none, Bool.true_and, decide_eq_true_iff]
    exact hfirst.zerosBefore_eq_iff hi

/-- A device without an identification code in front of one with a code moves the bits of the code by one place. -/
theorem idCodeBytes_reset_path_two :
    let devices := [Sim.Device.new 5, (Sim.Device.new 4).withIdCode ⟨1268778103⟩]
    let c : Chain Sim.Pod :=
      { Chain.new Config.default with
        cable? := some (Cable.new (Sim.Pod.new devices .combineTransfers) Config.default.queue .ample) }
    c.Reaches (Sim.Chain.new devices) ∧ (Sim.Chain.new devices).devices ≠ [] ∧
      (∃ c', (idCodeBytes (some 5)).runOn c = (.ok [0xee, 0x08, 0x40, 0x97, 0x00], c')) ∧
      ∃ c', (idCodeBytes none).runOn c = (.ok [0xee, 0x08, 0x40, 0x97, 0, 0, 0, 0], c') := by
  intro devices c
  have hreaches : c.Reaches (Sim.Chain.new devices) := reaches_new Config.default devices .combineTransfers
  have hne : (Sim.Chain.new devices).devices ≠ [] := List.cons_ne_nil _ _
  obtain ⟨hcounted, start, hfirst, c', hrun⟩ := idCodeBytes_reset_path hreaches hne
  have hstart : start = 4 := hfirst.unique ⟨by decide, by decide⟩
  have hfive : (List.range 5).map (Bits.byte (resetPath devices)) = [0xee, 0x08, 0x40, 0x97, 0x00] := by decide
  have hall : (List.range 8).map (Bits.byte (resetPath devices)) = [0xee, 0x08, 0x40, 0x97, 0, 0, 0, 0] := by decide
  subst hstart
  obtain ⟨c₁, h₁⟩ := hcounted 5
  exact ⟨hreaches, hne, ⟨c₁, h₁.trans (congrArg (fun bytes => (Except.ok bytes, c₁)) hfive)⟩, c',
    hrun.trans (congrArg (fun bytes => (Except.ok bytes, c')) hall)⟩

end Chain
end Jtag
