import Jtag.Sim.Chain

/-! The path through simulated devices: the shift registers of one column in a row, the device closest to
    TDO first. A clock in the shift state moves the path by one bit, and what matters is only the row of
    bits as a whole: every device holds its own slice of it. -/

namespace Jtag.Sim

open Tap (Column State)

namespace Device

def row : Column → Device → List Bool
  | .data, d => d.drShift
  | .instruction, d => d.irShift

def withRow : Column → List Bool → Device → Device
  | .data, bits, d => { d with drShift := bits }
  | .instruction, bits, d => { d with irShift := bits }

def captured : Column → Device → List Bool
  | .data, d => d.drCapture
  | .instruction, d => d.irCapture

def shift : Column → Device → Bool → Device × Bool
  | .data => shiftDr
  | .instruction => shiftIr

def update : Column → Device → Device
  | .data => updateDr
  | .instruction => updateIr

variable (column : Column) (d : Device)

@[simp] theorem row_withRow (bits : List Bool) : (d.withRow column bits).row column = bits := by cases column <;> rfl

@[simp] theorem withRow_row : d.withRow column (d.row column) = d := by cases column <;> rfl

@[simp] theorem withRow_withRow (bits more : List Bool) :
    (d.withRow column bits).withRow column more = d.withRow column more := by cases column <;> rfl

theorem shift_nil (h : d.row column = []) (tdi : Bool) : d.shift column tdi = (d, tdi) := by
  obtain ⟨⟩ := d
  cases column <;> simp only [row] at h <;> subst h <;> rfl

theorem shift_cons {b : Bool} {bits : List Bool} (h : d.row column = b :: bits) (tdi : Bool) :
    d.shift column tdi = (d.withRow column (bits ++ [tdi]), b) := by
  cases column <;> simp only [row] at h <;> simp [shift, shiftDr, shiftIr, shiftBits, withRow, h]

theorem length_irCapture (d : Device) : d.irCapture.length = d.irLength := by
  have hpos := d.irLength_pos
  rw [irCapture, List.length_cons, List.length_replicate]
  omega

end Device

/-! ### Rows of bits in devices -/

variable {column : Column} {devices : List Device}

/-- The shift registers of all devices in a row. -/
def path (column : Column) (devices : List Device) : List Bool := (devices.map (·.row column)).flatten

/-- Every device takes its slice of a row of bits. -/
def load (column : Column) : List Device → List Bool → List Device
  | [], _ => []
  | d :: rest, bits =>
    d.withRow column (bits.take (d.row column).length) :: load column rest (bits.drop (d.row column).length)

@[simp] theorem path_cons (d : Device) (rest : List Device) :
    path column (d :: rest) = d.row column ++ path column rest := rfl

theorem load_append {own : List Bool} {d : Device} (h : own.length = (d.row column).length) (rest : List Device)
    (others : List Bool) :
    load column (d :: rest) (own ++ others) = d.withRow column own :: load column rest others := by
  rw [load, List.take_left' h, List.drop_left' h]

theorem exists_slices {d : Device} {rest : List Device} {bits : List Bool}
    (h : bits.length = (path column (d :: rest)).length) :
    ∃ own others, bits = own ++ others ∧ own.length = (d.row column).length ∧
      others.length = (path column rest).length := by
  rw [path_cons, List.length_append] at h
  refine ⟨bits.take (d.row column).length, bits.drop (d.row column).length, (List.take_append_drop ..).symm, ?_, ?_⟩
  · exact List.length_take_of_le (by omega)
  · rw [List.length_drop, h, Nat.add_sub_cancel_left]

theorem path_load {bits : List Bool} (h : bits.length = (path column devices).length) :
    path column (load column devices bits) = bits := by
  induction devices generalizing bits with
  | nil => exact (List.eq_nil_of_length_eq_zero h).symm
  | cons d rest ih =>
    obtain ⟨own, others, rfl, hown, hothers⟩ := exists_slices h
    rw [load_append hown, path_cons, ih hothers, Device.row_withRow]

/-- What a device was loaded with before does not matter. -/
theorem load_load {bits : List Bool} (h : bits.length = (path column devices).length) (more : List Bool) :
    load column (load column devices bits) more = load column devices more := by
  induction devices generalizing bits more with
  | nil => rfl
  | cons d rest ih =>
    obtain ⟨own, others, rfl, hown, hothers⟩ := exists_slices h
    rw [load_append hown, load, Device.row_withRow, hown, ih hothers, Device.withRow_withRow]
    rfl

theorem load_flatten {rows : List (List Bool)} (h : rows.map List.length = devices.map fun d => (d.row column).length) :
    load column devices rows.flatten = List.zipWith (fun d bits => d.withRow column bits) devices rows := by
  induction devices generalizing rows with
  | nil => rfl
  | cons d rest ih =>
    obtain ⟨own, others, rfl⟩ : ∃ own others, rows = own :: others := by
      cases rows with
      | nil => exact absurd h (List.cons_ne_nil _ _).symm
      | cons own others => exact ⟨own, others, rfl⟩
    obtain ⟨hown, hothers⟩ := List.cons.inj h
    rw [List.flatten_cons, load_append hown, ih hothers]
    rfl

/-- The device closest to TDO has a bit to show. -/
def Shows (column : Column) (devices : List Device) : Prop := ∃ d rest, devices = d :: rest ∧ d.row column ≠ []

theorem Shows.load (h : Shows column devices) {bits : List Bool} (hbits : bits.length = (path column devices).length) :
    Shows column (load column devices bits) := by
  obtain ⟨d, rest, rfl, hrow⟩ := h
  obtain ⟨own, others, rfl, hown, hothers⟩ := exists_slices hbits
  refine ⟨d.withRow column own, Sim.load column rest others, load_append hown rest others, ?_⟩
  rw [Device.row_withRow]
  rintro rfl
  exact hrow (List.eq_nil_of_length_eq_zero hown.symm)

/-- One bit shifted in at the far end pushes the path by one place. -/
theorem shiftThrough_eq {tdi out : Bool} {shifted : List Bool} (h : path column devices ++ [tdi] = out :: shifted) :
    Chain.shiftThrough (Device.shift column) devices tdi = (load column devices shifted, out) := by
  induction devices generalizing out shifted with
  | nil =>
    cases h
    rfl
  | cons d rest ih =>
    have hne : path column rest ++ [tdi] ≠ [] :=
      List.append_ne_nil_of_right_ne_nil (path column rest) (List.cons_ne_nil tdi [])
    obtain ⟨between, behind, hrest⟩ := List.exists_cons_of_ne_nil hne
    rw [path_cons, List.append_assoc, hrest] at h
    rw [Chain.shiftThrough, ih hrest]
    dsimp only
    cases hrow : d.row column with
    | nil =>
      rw [hrow] at h
      cases h
      have hkeep : d.withRow column [] = d := by rw [← hrow, d.withRow_row]
      rw [d.shift_nil column hrow]
      show (d :: load column rest shifted, out) = (load column (d :: rest) ([] ++ shifted), out)
      rw [load_append (by rw [hrow]), hkeep]
    | cons b bits =>
      rw [hrow] at h
      cases h
      have hlength : (bits ++ [between]).length = (d.row column).length := by rw [hrow, List.length_append]; rfl
      rw [d.shift_cons column hrow]
      show (d.withRow column (bits ++ [between]) :: load column rest behind, out) =
        (load column (d :: rest) (bits ++ between :: behind), out)
      rw [List.append_cons bits between behind, load_append hlength]

/-! ### Single clocks -/

namespace Chain

variable {signals : Signals} {state : State}

/-- A clock in the shift state pushes the path by one place. -/
theorem clock_shift (htrst : signals.trst = true) (tms : Bool) {tdi out : Bool} {shifted : List Bool}
    (h : path column devices ++ [tdi] = out :: shifted) (clocks : Nat) :
    (⟨devices, .scan column .shift, signals, clocks⟩ : Chain).clock tms tdi =
      ⟨load column devices shifted, .scan column (if tms then .exit1 else .shift), signals, clocks + 1⟩ := by
  have hnext : State.next tms (.scan column .shift) = .scan column (if tms then .exit1 else .shift) := by
    cases column <;> rfl
  have hthrough : afterClock (.scan column (if tms then .exit1 else .shift))
      (beforeClock (.scan column .shift) tdi devices) = (shiftThrough (Device.shift column) devices tdi).1 := by
    cases column <;> cases tms <;> rfl
  rw [clock, if_pos htrst]
  dsimp only
  rw [hnext, hthrough, shiftThrough_eq h]

/-- In the shift state TDO shows the first bit of the path. -/
theorem tdo_shift (hshows : Shows column devices) {tdi out : Bool} {shifted : List Bool}
    (h : path column devices ++ [tdi] = out :: shifted) (signals : Signals) (clocks : Nat) :
    (⟨devices, .scan column .shift, signals, clocks⟩ : Chain).tdo = out := by
  obtain ⟨d, rest, rfl, hrow⟩ := hshows
  obtain ⟨b, bits, hbits⟩ := List.exists_cons_of_ne_nil hrow
  rw [path_cons, hbits] at h
  obtain ⟨rfl, -⟩ := List.cons.inj h
  have htdo : (⟨d :: rest, .scan column .shift, signals, clocks⟩ : Chain).tdo = ((d.row column).head?).getD false := by
    cases column <;> rfl
  rw [htdo, hbits]
  rfl

/-- The clock that leaves the capture state for the shift state loads what the devices capture. -/
theorem clock_capture (htrst : signals.trst = true) (devices : List Device) (tdi : Bool) (clocks : Nat) :
    (⟨devices, .scan column .capture, signals, clocks⟩ : Chain).clock false tdi =
      ⟨devices.map fun d => d.withRow column (d.captured column), .scan column .shift, signals, clocks + 1⟩ := by
  rw [clock, if_pos htrst]
  cases column <;> rfl

/-- The clock that enters the update state latches. -/
theorem clock_update (htrst : signals.trst = true) (devices : List Device) (tdi : Bool) (clocks : Nat) :
    (⟨devices, .scan column .exit1, signals, clocks⟩ : Chain).clock true tdi =
      ⟨devices.map fun d => d.update column, .scan column .update, signals, clocks + 1⟩ := by
  rw [clock, if_pos htrst]
  cases column <;> rfl

/-- All other clocks that neither capture nor shift nor latch leave the devices alone. -/
theorem clock_rest (htrst : signals.trst = true) {tms tdi : Bool}
    (hbefore : ∀ devices, beforeClock state tdi devices = devices)
    (hafter : ∀ devices, afterClock (state.next tms) devices = devices) (devices : List Device) (clocks : Nat) :
    (⟨devices, state, signals, clocks⟩ : Chain).clock tms tdi = ⟨devices, state.next tms, signals, clocks + 1⟩ := by
  rw [clock, if_pos htrst]
  dsimp only
  rw [hbefore, hafter]

end Chain
end Jtag.Sim
