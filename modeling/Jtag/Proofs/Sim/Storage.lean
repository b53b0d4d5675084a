import Mathlib.Data.List.Nodup
import Jtag.Proofs.Sim.Reset

/-! The storage of simulated devices. A device that lists no opcode twice stores for each as many bits as the
    instruction selects, from when it is built and through all clocks. So what it captures is as long as the
    register that it selected. -/

namespace Jtag.Sim

open Tap (Column State)

/-- The bits that a selection puts between TDI and TDO. -/
def Selection.length : Selection → Nat
  | .bypass => 1
  | .idCode => IdCode.length
  | .data length => length

namespace Device

variable {d : Device}

/-- Devices as they are built: an instruction register, and what is added to it. -/
inductive Built : Device → Prop
  | new (irLength : Nat) : Built (new irLength)
  | withIdCode {d : Device} (h : Built d) (id : IdCode) : Built (d.withIdCode id)
  | withInstruction {d : Device} (h : Built d) (opcode : UInt64) (selection : Selection) :
      Built (d.withInstruction opcode selection)

/-- Every opcode is listed once. -/
def Once (d : Device) : Prop := (d.instructions.map (·.1)).Nodup

instance : Decidable d.Once := inferInstanceAs (Decidable (d.instructions.map (·.1)).Nodup)

/-- What is stored for an opcode is as long as the register that is listed for it. -/
def Stores (d : Device) : Prop :=
  ∀ opcode bits length, d.stored? opcode = some bits → (opcode, .data length) ∈ d.instructions → bits.length = length

/-- A storage register that is selected is listed for the instruction. -/
def Selects (d : Device) : Prop := ∀ length, d.selected = .data length → (d.instruction, .data length) ∈ d.instructions

theorem Once.unique (h : d.Once) {opcode : UInt64} {s s' : Selection} (hs : (opcode, s) ∈ d.instructions)
    (hs' : (opcode, s') ∈ d.instructions) : s = s' := congrArg Prod.snd (List.inj_on_of_nodup_map h hs hs' rfl)

theorem stored?_store (d : Device) (opcode other : UInt64) (bits : List Bool) :
    (d.store opcode bits).stored? other = if other = opcode then some bits else d.stored? other := by
  unfold stored? store
  dsimp only
  split
  · subst other
    simp
  · have hother : (opcode == other) = false := beq_false_of_ne fun h => ‹¬other = opcode› h.symm
    rw [List.find?_cons, hother, List.find?_filter]
    refine congrArg (Option.map _) (congrArg (List.find? · d.storage) (funext fun entry => ?_))
    cases hentry : entry.1 == other with
    | false => rw [Bool.decide_and]; simp
    | true =>
      have hne : entry.1 ≠ opcode := eq_of_beq hentry ▸ ‹¬other = opcode›
      simp [hne]

theorem mem_of_selectionOf {opcode : UInt64} {length : Nat} (h : d.selectionOf opcode = .data length) :
    (opcode, .data length) ∈ d.instructions := by
  unfold selectionOf at h
  split at h
  · cases h
  · cases hentry : d.instructions.find? (·.1 == opcode) with
    | none => rw [hentry] at h; cases h
    | some entry =>
      rw [hentry] at h
      have hopcode := List.find?_some hentry
      have hmem := List.mem_of_find?_eq_some hentry
      obtain ⟨opcode', s⟩ := entry
      obtain rfl : opcode' = opcode := eq_of_beq hopcode
      obtain rfl : s = .data length := h
      exact hmem

/-- What is captured is as long as the selected register. -/
theorem length_drCapture (h : d.Stores) (hselects : d.Selects) : d.drCapture.length = d.selected.length := by
  unfold drCapture
  cases hs : d.selected with
  | bypass => rfl
  | idCode =>
    cases d.idCode? with
    | none => exact List.length_replicate
    | some id => exact id.length_bits
  | data length =>
    dsimp only
    cases hbits : d.stored? d.instruction with
    | none => exact List.length_replicate
    | some bits => exact h _ _ _ hbits (hselects length hs)

/-! ### What a device does -/

theorem rowless_stores : Rowless Stores := by
  intro column bits d
  cases column <;> rfl

theorem rowless_selects : Rowless Selects := by
  intro column bits d
  cases column <;> rfl

theorem rowless_captureLength : Rowless fun d => d.drCapture.length := by
  intro column bits d
  cases column <;> rfl

theorem lasting_instructions : Lasting instructions where
  rowless column bits d := by cases column <;> rfl
  update column d := by
    cases column with
    | instruction => rfl
    | data =>
      show d.updateDr.instructions = d.instructions
      unfold updateDr
      split <;> rfl
  reset _ := rfl

theorem selects_reset (d : Device) : d.reset.Selects := by
  intro length h
  have hselected : (if d.idCode?.isSome then Selection.idCode else .bypass) = .data length := h
  split at hselected <;> cases hselected

theorem selects_updateIr (d : Device) : d.updateIr.Selects := fun _ h => mem_of_selectionOf h

theorem Selects.updateDr (h : d.Selects) : d.updateDr.Selects := by
  unfold Device.updateDr
  split <;> exact h

theorem Stores.store (h : d.Stores) {opcode : UInt64} {bits : List Bool}
    (hbits : ∀ length, (opcode, .data length) ∈ d.instructions → bits.length = length) : (d.store opcode bits).Stores := by
  intro other found length hfound hlisted
  rw [stored?_store] at hfound
  split at hfound
  · cases hfound
    subst other
    exact hbits length hlisted
  · exact h other found length hfound hlisted

/-- A register is stored as long as it was captured, so its length stays. -/
theorem Stores.updateDr (h : d.Stores) (hselects : d.Selects) (honce : d.Once)
    (hrow : d.drShift.length = d.drCapture.length) : d.updateDr.Stores := by
  unfold Device.updateDr
  split
  case h_2 => exact h
  case h_1 length hs =>
    refine h.store fun length' hlisted => ?_
    have hsame : Selection.data length' = .data length := honce.unique hlisted (hselects length hs)
    cases hsame
    rw [hrow, length_drCapture h hselects, hs]
    rfl

/-! ### How a device is built -/

theorem Once.of_withInstruction {opcode : UInt64} {selection : Selection} (h : (d.withInstruction opcode selection).Once) :
    d.Once ∧ ∀ s, (opcode, s) ∉ d.instructions := by
  have hlisted : (d.withInstruction opcode selection).instructions = d.instructions ++ [(opcode, selection)] := by
    unfold withInstruction
    cases selection <;> rfl
  rw [Once, hlisted, List.map_append, List.nodup_append] at h
  refine ⟨h.1, fun s hs => ?_⟩
  exact h.2.2 opcode (List.mem_map.mpr ⟨_, hs, rfl⟩) opcode List.mem_cons_self rfl

theorem Stores.withInstruction (h : d.Stores) {opcode : UInt64} (hnew : ∀ s, (opcode, s) ∉ d.instructions)
    (selection : Selection) : (d.withInstruction opcode selection).Stores := by
  -- The new entry asks for nothing but the bits that are stored along with it.
  have hlisted : ∀ other found length, d.stored? other = some found →
      (other, .data length) ∈ d.instructions ++ [(opcode, selection)] → (other, .data length) ≠ (opcode, selection) →
        found.length = length := by
    intro other found length hfound hmem hne
    rcases List.mem_append.mp hmem with hold | hlast
    · exact h other found length hfound hold
    · exact absurd (List.mem_singleton.mp hlast) hne
  cases selection with
  | bypass => exact fun other found length hfound hmem => hlisted other found length hfound hmem nofun
  | idCode => exact fun other found length hfound hmem => hlisted other found length hfound hmem nofun
  | data length =>
    intro other found length' hfound hmem
    have hfound : (Device.store { d with instructions := d.instructions ++ [(opcode, .data length)] } opcode
      (List.replicate length false)).stored? other = some found := hfound
    rw [stored?_store] at hfound
    split at hfound
    · cases hfound
      subst other
      rcases List.mem_append.mp hmem with hold | hlast
      · exact absurd hold (hnew _)
      · cases List.mem_singleton.mp hlast
        exact List.length_replicate
    · exact hlisted other found length' hfound hmem fun heq => ‹¬other = opcode› (congrArg Prod.fst heq)

theorem Built.stores (h : d.Built) (honce : d.Once) : d.Stores ∧ d.Selects := by
  induction h with
  | new irLength => exact ⟨fun _ _ _ _ hmem => absurd hmem List.not_mem_nil, selects_reset _⟩
  | withIdCode _ id ih => exact ⟨(ih honce).1, selects_reset _⟩
  | @withInstruction d _ opcode selection ih =>
    obtain ⟨honce, hnew⟩ := honce.of_withInstruction
    obtain ⟨hstores, hselects⟩ := ih honce
    refine ⟨hstores.withInstruction hnew selection, fun length hs => ?_⟩
    cases selection <;> exact List.mem_append_left _ (hselects length hs)

end Device

/-! ### Through all clocks -/

variable {column : Column} {devices : List Device} {state : State}

theorem load_lengths {bits : List Bool} (h : bits.length = (path column devices).length) :
    (load column devices bits).map (fun d => (d.row column).length) = devices.map fun d => (d.row column).length := by
  induction devices generalizing bits with
  | nil => rfl
  | cons d rest ih =>
    obtain ⟨own, others, rfl, hown, hothers⟩ := exists_slices h
    rw [load_append hown, List.map_cons, List.map_cons, ih hothers, Device.row_withRow, hown]

/-- The data path is on its way: the state lies behind the capture of the data column and before its update. -/
def holdsData : State → Bool
  | .scan .data .shift | .scan .data .exit1 | .scan .data .pause | .scan .data .exit2 => true
  | _ => false

theorem holdsData_of_next {tms : Bool} (h : holdsData (state.next tms) = true) :
    state = .scan .data .capture ∨ holdsData state = true := by
  rcases state with _ | _ | _ | ⟨column, stage⟩
  · cases h
  · cases tms <;> cases h
  · cases tms <;> cases h
  · cases column <;> cases stage <;> cases tms <;> simp [State.next, holdsData] at h ⊢

theorem holdsData_of_update {tms : Bool} (h : state.next tms = .scan .data .update) : holdsData state = true := by
  rcases state with _ | _ | _ | ⟨column, stage⟩
  · cases h
  · cases tms <;> cases h
  · cases tms <;> cases h
  · cases column <;> cases stage <;> cases tms <;> simp [State.next, holdsData] at h ⊢

namespace Chain

variable {sim : Chain}

/-- Chains of devices as they are built, and what clocks and driven lines make of them. -/
inductive Driven : Chain → Prop
  | new {devices : List Device} (h : ∀ d ∈ devices, d.Built) : Driven (.new devices)
  | clock {sim : Chain} (h : Driven sim) (tms tdi : Bool) : Driven (sim.clock tms tdi)
  | drive {sim : Chain} (h : Driven sim) (mask value : Signals) : Driven (sim.drive mask value)

/-- The devices store what fits their instructions, and what is on its way through their data path is as long as
    what they captured. -/
structure Fitted (sim : Chain) : Prop where
  stores : ∀ d ∈ sim.devices, d.Stores
  selects : ∀ d ∈ sim.devices, d.Selects
  rows : holdsData sim.state = true → ∀ d ∈ sim.devices, d.drShift.length = d.drCapture.length

/-- A capture fills the data path, and a shift keeps its length. -/
theorem rows_beforeClock (h : holdsData state = true → ∀ d ∈ devices, d.drShift.length = d.drCapture.length)
    (hstate : state = .scan .data .capture ∨ holdsData state = true) (tdi : Bool) :
    ∀ d ∈ beforeClock state tdi devices, d.drShift.length = d.drCapture.length := by
  rcases hstate with rfl | hholds
  · exact List.forall_mem_map.mpr fun d _ => rfl
  by_cases hshift : state = .scan .data .shift
  · subst hshift
    obtain ⟨out, shifted, hshifted⟩ := List.exists_cons_of_ne_nil
      (List.append_ne_nil_of_right_ne_nil (path .data devices) (List.cons_ne_nil tdi []))
    have hlength : shifted.length = (path .data devices).length := by
      simpa using (congrArg List.length hshifted).symm
    have hload : beforeClock (.scan .data .shift) tdi devices = load .data devices shifted :=
      congrArg Prod.fst (shiftThrough_eq hshifted)
    have hcaptures := Device.rowless_captureLength.load .data devices shifted
    rw [hload]
    exact List.map_inj_left.mp ((load_lengths hlength).trans ((List.map_congr_left (h hholds)).trans hcaptures.symm))
  · have hrest : beforeClock state tdi devices = devices := by
      rcases state with _ | _ | _ | ⟨column, stage⟩ <;> try rfl
      cases column <;> cases stage <;> simp [holdsData, beforeClock] at hholds hshift ⊢
    rw [hrest]
    exact h hholds

theorem fitted_afterClock (hstores : ∀ d ∈ devices, d.Stores) (hselects : ∀ d ∈ devices, d.Selects)
    (honce : ∀ d ∈ devices, d.Once)
    (hrows : holdsData state = true ∨ state = .scan .data .update → ∀ d ∈ devices, d.drShift.length = d.drCapture.length)
    (signals : Signals) (clocks : Nat) : Fitted ⟨afterClock state devices, state, signals, clocks⟩ := by
  have hkept (hafter : afterClock state devices = devices) :
      Fitted ⟨afterClock state devices, state, signals, clocks⟩ := by
    rw [hafter]
    exact ⟨hstores, hselects, fun hholds => hrows (.inl hholds)⟩
  rcases state with _ | _ | _ | ⟨column, stage⟩
  · exact hkept rfl
  · refine ⟨List.forall_mem_map.mpr hstores, List.forall_mem_map.mpr fun d _ => d.selects_reset, ?_⟩
    rintro ⟨⟩
  · exact hkept rfl
  · cases column <;> cases stage <;> try exact hkept rfl
    · refine ⟨List.forall_mem_map.mpr fun d hd => ?_, List.forall_mem_map.mpr fun d hd => (hselects d hd).updateDr, ?_⟩
      · exact (hstores d hd).updateDr (hselects d hd) (honce d hd) (hrows (.inr rfl) d hd)
      · rintro ⟨⟩
    · refine ⟨List.forall_mem_map.mpr hstores, List.forall_mem_map.mpr fun d _ => d.selects_updateIr, ?_⟩
      rintro ⟨⟩

theorem Fitted.clock (h : sim.Fitted) (honce : ∀ d ∈ sim.devices, d.Once) (tms tdi : Bool) : (sim.clock tms tdi).Fitted := by
  cases htrst : sim.signals.trst with
  | false =>
    rw [Chain.clock, if_neg (Bool.eq_false_iff.mp htrst)]
    exact ⟨h.stores, h.selects, h.rows⟩
  | true =>
    rw [clock_released sim htrst]
    refine fitted_afterClock ?_ ?_ ?_ ?_ _ _
    · exact forall_of_map_eq (P := id) (Device.rowless_stores.beforeClock sim.state tdi sim.devices) h.stores
    · exact forall_of_map_eq (P := id) (Device.rowless_selects.beforeClock sim.state tdi sim.devices) h.selects
    · exact forall_of_map_eq (P := fun l => (l.map Prod.fst).Nodup)
        (Device.lasting_instructions.rowless.beforeClock sim.state tdi sim.devices) honce
    · rintro (hholds | hupdate)
      · exact rows_beforeClock h.rows (holdsData_of_next hholds) tdi
      · exact rows_beforeClock h.rows (.inr (holdsData_of_update hupdate)) tdi

theorem Fitted.drive (h : sim.Fitted) (mask value : Signals) : (sim.drive mask value).Fitted := by
  unfold Chain.drive
  dsimp only
  split
  · exact ⟨h.stores, h.selects, h.rows⟩
  · refine ⟨List.forall_mem_map.mpr h.stores, List.forall_mem_map.mpr fun d _ => d.selects_reset, ?_⟩
    rintro ⟨⟩

theorem instructions_clock (sim : Chain) (tms tdi : Bool) :
    (sim.clock tms tdi).devices.map Device.instructions = sim.devices.map Device.instructions := by
  cases htrst : sim.signals.trst with
  | false => rw [Chain.clock, if_neg (Bool.eq_false_iff.mp htrst)]
  | true =>
    rw [clock_released sim htrst]
    exact (Device.lasting_instructions.afterClock ..).trans (Device.lasting_instructions.rowless.beforeClock ..)

theorem instructions_drive (sim : Chain) (mask value : Signals) :
    (sim.drive mask value).devices.map Device.instructions = sim.devices.map Device.instructions := by
  unfold Chain.drive
  dsimp only
  split
  · rfl
  · exact List.map_map

/-- Devices that list no opcode twice always store what fits their instructions. -/
theorem Driven.fitted (h : sim.Driven) (honce : ∀ d ∈ sim.devices, d.Once) : sim.Fitted := by
  have hback {before after : Chain} (hkept : after.devices.map Device.instructions = before.devices.map Device.instructions)
      (honce : ∀ d ∈ after.devices, d.Once) : ∀ d ∈ before.devices, d.Once :=
    forall_of_map_eq (P := fun l => (l.map Prod.fst).Nodup) hkept.symm honce
  induction h with
  | new hbuilt =>
    refine ⟨fun d hd => ((hbuilt d hd).stores (honce d hd)).1, fun d hd => ((hbuilt d hd).stores (honce d hd)).2, ?_⟩
    rintro ⟨⟩
  | @clock sim _ tms tdi ih =>
    have honce₀ := hback (sim.instructions_clock tms tdi) honce
    exact (ih honce₀).clock honce₀ tms tdi
  | @drive sim _ mask value ih => exact (ih (hback (sim.instructions_drive mask value) honce)).drive mask value

end Chain
end Jtag.Sim
