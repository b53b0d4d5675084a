import Mathlib.Data.List.Forall2
import Mathlib.Data.List.SplitLengths
import Jtag.Proofs.Register.Count
import Jtag.Proofs.Sim.Storage

/-! What an instruction value selects in simulated devices. Every device latches its own slice of the value, and the
    data path is made of the registers that the slices select. A reset leaves of a device all that decides about
    this. -/

namespace Jtag.Sim

variable {devices devices' : List Device} {value : List Bool}

/-- An instruction value, cut into what goes to each device. The device closest to TDO gets the lowest bits. -/
def slices (devices : List Device) (value : List Bool) : List (List Bool) := (devices.map (·.irLength)).splitLengths value

/-- The registers that an instruction value selects. -/
def selections (devices : List Device) (value : List Bool) : List Selection :=
  (devices.zip (slices devices value)).map fun p => p.1.selectionOf (Bits.low64 p.2)

/-- The length of the data path that an instruction value selects. -/
def selectedLength (devices : List Device) (value : List Bool) : Nat :=
  Scan.total ((selections devices value).map (·.length))

/-- The devices that latched an instruction value. -/
def latched (devices : List Device) (value : List Bool) : List Device :=
  List.zipWith (fun d slice => (d.withRow .instruction slice).update .instruction) devices (slices devices value)

theorem latched_eq (devices : List Device) (value : List Bool) :
    latched devices value = (devices.zip (slices devices value)).map fun p => (p.1.withRow .instruction p.2).updateIr :=
  (List.map_uncurry_zip_eq_zipWith ..).symm

/-! ### Slices -/

theorem total_eq_sum (lengths : List Nat) : Scan.total lengths = lengths.sum := by
  induction lengths with
  | nil => rfl
  | cons length rest ih => rw [Scan.total, ih, List.sum_cons]

section
variable (h : value.length = instructionLength devices)
include h

theorem flatten_slices : (slices devices value).flatten = value := by
  rw [instructionLength, total_eq_sum] at h
  exact List.flatten_splitLengths _ _ (Nat.le_of_eq h)

theorem lengths_slices : (slices devices value).map List.length = devices.map (·.irLength) := by
  rw [instructionLength, total_eq_sum] at h
  exact List.map_splitLengths_length _ _ (Nat.le_of_eq h.symm)

theorem length_slice {p : Device × List Bool} (hp : p ∈ devices.zip (slices devices value)) : p.2.length = p.1.irLength := by
  have hlengths : List.Forall₂ Eq (devices.map (·.irLength)) ((slices devices value).map List.length) := by
    rw [List.forall₂_eq_eq_eq]
    exact (lengths_slices h).symm
  rw [List.forall₂_map_left_iff, List.forall₂_map_right_iff] at hlengths
  exact ((List.forall₂_iff_zip.mp hlengths).2 hp).symm

/-- An instruction value that is shifted in is what the devices latch. -/
theorem pushed_eq_latched : pushed .instruction value devices = latched devices value := by
  have hrows : (slices devices value).map List.length = devices.map fun d => (d.captured .instruction).length := by
    rw [lengths_slices h]
    exact List.map_congr_left fun d _ => d.length_irCapture.symm
  calc pushed .instruction value devices
      = pushed .instruction (slices devices value).flatten devices := by rw [flatten_slices h]
    _ = latched devices value := pushed_flatten hrows

end

/-! ### The data path -/

theorem Device.length_drCapture_updateIr {d : Device} (h : d.Stores) (slice : List Bool) :
    (d.withRow .instruction slice).updateIr.drCapture.length = (d.selectionOf (Bits.low64 slice)).length :=
  length_drCapture (d := (d.withRow .instruction slice).updateIr) h (selects_updateIr _)

/-- Every register that a device can select has a bit to show. -/
def Device.Responds (d : Device) : Prop :=
  ∀ slice : List Bool, slice.length = d.irLength → 0 < (d.selectionOf (Bits.low64 slice)).length

instance (d : Device) : Decidable d.Responds := decidable_of_iff' _ Bits.forall_length_iff

theorem captured_latched_ne_nil (hstores : ∀ d ∈ devices, d.Stores) (hresponds : ∀ d ∈ devices, d.Responds)
    (h : value.length = instructionLength devices) : ∀ d ∈ latched devices value, d.captured .data ≠ [] := by
  intro d hd
  rw [latched_eq] at hd
  obtain ⟨p, hp, rfl⟩ := List.mem_map.mp hd
  have hmem := (List.of_mem_zip hp).1
  refine List.ne_nil_of_length_pos (Nat.lt_of_lt_of_eq ?_ (Device.length_drCapture_updateIr (hstores p.1 hmem) p.2).symm)
  exact hresponds p.1 hmem p.2 (length_slice h hp)

theorem length_capturedPath_latched (hstores : ∀ d ∈ devices, d.Stores) (value : List Bool) :
    (capturedPath .data (latched devices value)).length = selectedLength devices value := by
  have hcaptures : (latched devices value).map (fun d => (d.captured .data).length) =
      (selections devices value).map (·.length) := by
    rw [latched_eq, selections, List.map_map, List.map_map]
    refine List.map_congr_left fun p hp => ?_
    exact Device.length_drCapture_updateIr (hstores p.1 (List.of_mem_zip hp).1) p.2
  rw [capturedPath, ← List.flatMap_def, Scan.length_flatMap, hcaptures, selectedLength]

/-! ### What a reset leaves -/

/-- A device without what a reset or a scan of its instruction changes. -/
def Device.blank (d : Device) : Device :=
  { d with irShift := [], drShift := [], instruction := 0, selected := .bypass, irUpdates := 0 }

theorem Device.rowless_blank : Rowless blank := by
  intro column bits d
  cases column <;> rfl

theorem blank_reset (devices : List Device) : (devices.map Device.reset).map Device.blank = devices.map Device.blank :=
  List.map_map

theorem blank_latched (h : value.length = instructionLength devices) :
    (latched devices value).map Device.blank = devices.map Device.blank := by
  have hlong : devices.length ≤ (slices devices value).length := by
    rw [← List.length_map List.length, lengths_slices h, List.length_map]
  have hblank : Device.blank ∘ (fun p : Device × List Bool => (p.1.withRow .instruction p.2).updateIr) =
      Device.blank ∘ Prod.fst := rfl
  rw [latched_eq, List.map_map, hblank, ← List.map_map, List.map_fst_zip hlong]

theorem instructionLength_of_blank (h : devices.map Device.blank = devices'.map Device.blank) :
    instructionLength devices = instructionLength devices' := by
  have hblank (devices : List Device) : instructionLength (devices.map Device.blank) = instructionLength devices := by
    rw [instructionLength, List.map_map]
    rfl
  rw [← hblank, h, hblank]

theorem selectedLength_of_blank (h : devices.map Device.blank = devices'.map Device.blank) (value : List Bool) :
    selectedLength devices value = selectedLength devices' value := by
  have hblank (devices : List Device) : selectedLength (devices.map Device.blank) value = selectedLength devices value := by
    simp only [selectedLength, selections, slices, List.map_map, List.zip_map_left]
    rfl
  rw [← hblank, h, hblank]

end Jtag.Sim
