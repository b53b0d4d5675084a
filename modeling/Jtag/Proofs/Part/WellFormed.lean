import Jtag.Proofs.Part.Calls

/-! Parts in order. The positions in a part lie inside the lists that they point into, names are taken once, and
    signals and boundary cells agree about each other. Each change that a call makes keeps a part in order, so the
    calls do, also where they fail. -/

namespace Jtag

/-- A cell of this type can be the input or the output of a signal. -/
def CellType.serves (t : CellType) : Direction → Bool
  | .input => t.isInput
  | .output => t.isOutput

namespace Part

open Jtag.Action

structure WellFormed (p : Part) : Prop where
  active : ∀ i ∈ p.active?, i < p.instructions.length
  selected : ∀ x ∈ p.instructions, ∀ i ∈ x.register?, i < p.registers.length
  aliased : ∀ a ∈ p.aliases, a.signal < p.signals.length
  opcodes : ∀ x ∈ p.instructions, x.opcode.length = p.instructionLength ∧ x.captured.length = p.instructionLength
  registerNames : (p.registers.map (·.name)).Nodup
  instructionNames : (p.instructions.map (·.name)).Nodup
  signalNames : p.signalNames.Nodup
  boundary : ∀ r ∈ p.registers, r.name = bsr → p.boundaryLength = r.length
  noBoundary : bsr ∉ p.registers.map (·.name) → p.boundaryLength = 0
  cells : ∀ bit cell, p.cell? bit = some cell → cell.bit = bit ∧ (∀ i ∈ cell.signal?, i < p.signals.length) ∧
    ∀ control ∈ cell.control?, control.bit < p.boundaryLength
  mapped : ∀ direction i signal bit, p.signals[i]? = some signal → signal.bit? direction = some bit →
    ∃ cell, p.cell? bit = some cell ∧ cell.signal? = some i ∧ cell.type.serves direction = true

variable {p p' : Part} {name : String} {i index bit : Nat} {value : Bool}

theorem cell?_lt {cell : BoundaryCell} (h : p.cell? bit = some cell) : bit < p.boundaryLength :=
  (List.getElem?_eq_some_iff.mp (Option.join_eq_some_iff.mp h)).1

/-- The boundary cells of a part without any. -/
theorem cell?_blank (length : Nat) (h : p.cells = List.replicate length none) (bit : Nat) : p.cell? bit = none := by
  unfold cell?
  rw [h, List.getElem?_replicate]
  split <;> rfl

theorem cell?_set {cells : List (Option BoundaryCell)} (cell : BoundaryCell)
    (hcells : p'.cells = cells.set index (some cell)) (h : index < cells.length) (bit : Nat) :
    p'.cell? bit = if bit = index then some cell else cells[bit]?.join := by
  unfold cell?
  rw [hcells, List.getElem?_set]
  rcases eq_or_ne index bit with rfl | hne
  · rw [if_pos rfl, if_pos rfl, if_pos h]
    rfl
  · rw [if_neg hne, if_neg hne.symm]

/-- A signal that a cell of the type takes over. -/
def Signal.tied (s : Signal) (bit : Nat) (type : CellType) : Signal :=
  { s with
    input? := if type.isInput then some bit else s.input?
    output? := if type.isOutput then some bit else s.output? }

theorem bit?_tied (s : Signal) (bit : Nat) (type : CellType) (direction : Direction) :
    (Signal.tied s bit type).bit? direction = if type.serves direction then some bit else s.bit? direction := by
  cases direction <;> rfl

theorem getElem?_mapSignal (p : Part) (index bit : Nat) (type : CellType) (i : Nat) :
    (p.mapSignal index bit type).signals[i]? =
      if index = i then p.signals[i]?.map (Signal.tied · bit type) else p.signals[i]? := by
  show (p.signals.modify index (Signal.tied · bit type))[i]? = _
  rw [List.getElem?_modify]
  rcases eq_or_ne index i with rfl | hne
  · simp
  · simp [hne]

/-- What a cell changes: its bit, its place in the table of cells, and the signal that it takes over. -/
theorem withCell_eq (p : Part) (index : Nat) (cell : BoundaryCell) :
    ∃ signals, p.withCell index cell = { p with
        registers := (p.loadBit index cell.bit cell.safe).registers
        signals
        cells := p.cells.set cell.bit (some cell) } ∧
      signals.map (fun s => (s.name, s.pin?)) = p.signals.map (fun s => (s.name, s.pin?)) ∧
      ∀ i, signals[i]? = p.signals[i]?.map fun s => if cell.signal? = some i then Signal.tied s cell.bit cell.type else s := by
  unfold withCell
  cases cell.signal? with
  | none => exact ⟨p.signals, rfl, rfl, fun i => by simp⟩
  | some owner =>
    refine ⟨_, rfl, map_modify_eq fun _ _ => rfl, fun i => (getElem?_mapSignal _ owner cell.bit cell.type i).trans ?_⟩
    by_cases howner : owner = i <;> simp [howner, loadBit, modifyRegister]

namespace WellFormed

theorem new (id? : Option IdCode) : (Part.new id?).WellFormed where
  active := nofun
  selected := nofun
  aliased := nofun
  opcodes := nofun
  registerNames := List.nodup_nil
  instructionNames := List.nodup_nil
  signalNames := List.nodup_nil
  boundary := nofun
  noBoundary _ := rfl
  cells bit cell hcell := by
    rw [cell?_blank 0 rfl] at hcell
    cases hcell
  mapped := nofun

/-- The names of the data registers, and the length of the boundary scan register, are all that is asked of them. -/
theorem withRegisters (h : p.WellFormed) {registers : List DataRegister}
    (hnames : registers.map (·.name) = p.registers.map (·.name))
    (hlength : ∀ r ∈ registers, r.name = bsr → ∃ r₀ ∈ p.registers, r₀.name = bsr ∧ r₀.length = r.length) :
    { p with registers }.WellFormed where
  __ := h
  selected x hx i hi := by
    have hcount : registers.length = p.registers.length := by simpa using congrArg List.length hnames
    exact hcount ▸ h.selected x hx i hi
  registerNames := hnames ▸ h.registerNames
  boundary r hr hname := by
    obtain ⟨r₀, hr₀, hname₀, hsame⟩ := hlength r hr hname
    exact (h.boundary r₀ hr₀ hname₀).trans hsame
  noBoundary hnone := h.noBoundary (hnames ▸ hnone)

theorem modifyRegister (h : p.WellFormed) {f : DataRegister → DataRegister}
    (hf : ∀ r, p.registers[index]? = some r → (f r).name = r.name ∧ (r.name = bsr → (f r).length = r.length)) :
    (p.modifyRegister index f).WellFormed := by
  refine h.withRegisters (map_modify_eq fun r hr => (hf r hr).1) fun r hr hname => ?_
  obtain ⟨k, hk⟩ := List.mem_iff_getElem?.mp hr
  rw [List.getElem?_modify] at hk
  obtain ⟨r₀, hr₀, rfl⟩ := Option.map_eq_some_iff.mp hk
  refine ⟨r₀, List.mem_of_getElem? hr₀, ?_⟩
  rcases eq_or_ne index k with rfl | hne
  · rw [if_pos rfl] at hname ⊢
    obtain ⟨hsame, hlength⟩ := hf r₀ hr₀
    have hname₀ := hsame.symm.trans hname
    exact ⟨hname₀, (hlength hname₀).symm⟩
  · rw [if_neg hne] at hname ⊢
    exact ⟨hname, rfl⟩

theorem loadBit (h : p.WellFormed) (index bit : Nat) (value : Bool) : (p.loadBit index bit value).WellFormed :=
  h.modifyRegister fun r _ => ⟨rfl, fun _ => r.input.length_write bit value⟩

theorem preloadCode (h : p.WellFormed) (index : Nat) : (p.preloadCode index).WellFormed := by
  unfold Part.preloadCode
  split
  · exact h
  · exact h.modifyRegister fun r _ => ⟨rfl, fun _ => rfl⟩

/-- A register of another name than that of the boundary scan register brings no cells. -/
theorem appendRegister (h : p.WellFormed) {r : DataRegister} (hfree : r.name ∉ p.registers.map (·.name))
    (hother : r.name ≠ bsr) : { p with registers := p.registers ++ [r] }.WellFormed where
  __ := h
  selected x hx i hi := by
    have hlt := h.selected x hx i hi
    rw [List.length_append]
    omega
  registerNames := nodup_map_append.mpr ⟨h.registerNames, hfree⟩
  boundary := forall_mem_append_singleton.mpr ⟨h.boundary, fun hname => absurd hname hother⟩
  noBoundary hnone := h.noBoundary fun hmem => hnone (by rw [List.map_append]; exact List.mem_append_left _ hmem)

/-- A boundary scan register of any length, with signals that no cell reaches. -/
theorem withBoundary (h : p.WellFormed) {registers : List DataRegister} {signals : List Signal} {length : Nat}
    (hnames : (registers.map (·.name)).Nodup) (hcount : p.registers.length ≤ registers.length)
    (hpresent : bsr ∈ registers.map (·.name)) (hlength : ∀ r ∈ registers, r.name = bsr → r.length = length)
    (hsignals : signals.map (·.name) = p.signals.map (·.name))
    (hcut : ∀ s ∈ signals, ∀ direction, s.bit? direction = none) :
    { p with registers, signals, cells := List.replicate length none }.WellFormed := by
  have hsignalCount : signals.length = p.signals.length := by simpa using congrArg List.length hsignals
  exact { h with
    selected := fun x hx i hi => Nat.lt_of_lt_of_le (h.selected x hx i hi) hcount
    aliased := fun a ha => hsignalCount ▸ h.aliased a ha
    registerNames := hnames
    signalNames := by
      have hkept := h.signalNames
      rw [Part.signalNames, ← hsignals] at hkept
      exact hkept
    boundary := fun r hr hname => List.length_replicate.trans (hlength r hr hname).symm
    noBoundary := fun hnone => absurd hpresent hnone
    cells := fun bit cell hcell => by
      rw [cell?_blank length rfl] at hcell
      cases hcell
    mapped := fun direction i s bit hs hbit => by
      rw [hcut s (List.mem_of_getElem? hs)] at hbit
      cases hbit }

theorem withInstructions (h : p.WellFormed) {instructions : List Instruction}
    (hsame : instructions.map (fun x => (x.name, x.opcode.length, x.register?)) =
      p.instructions.map fun x => (x.name, x.opcode.length, x.register?)) : { p with instructions }.WellFormed := by
  have hback : ∀ x ∈ instructions, ∃ x₀ ∈ p.instructions, x₀.opcode.length = x.opcode.length ∧
      x₀.register? = x.register? := by
    intro x hx
    have hmem : (x.name, x.opcode.length, x.register?) ∈ instructions.map fun x => (x.name, x.opcode.length, x.register?) :=
      List.mem_map_of_mem (f := fun x : Instruction => (x.name, x.opcode.length, x.register?)) hx
    rw [hsame] at hmem
    obtain ⟨x₀, hx₀, heq⟩ := List.mem_map.mp hmem
    simp only [Prod.mk.injEq] at heq
    exact ⟨x₀, hx₀, heq.2.1, heq.2.2⟩
  have hnames := map_fst_eq hsame
  have hcount : instructions.length = p.instructions.length := by simpa using congrArg List.length hnames
  exact { h with
    active := fun i hi => hcount ▸ h.active i hi
    selected := fun x hx i hi => by
      obtain ⟨x₀, hx₀, -, hregister⟩ := hback x hx
      exact h.selected x₀ hx₀ i (hregister ▸ hi)
    opcodes := fun x hx => by
      obtain ⟨x₀, hx₀, hlength, -⟩ := hback x hx
      have hopcode := hlength.symm.trans (h.opcodes x₀ hx₀).1
      exact ⟨hopcode, x.captured_length.trans hopcode⟩
    instructionNames := hnames ▸ h.instructionNames
    mapped := h.mapped }

theorem modifyInstruction (h : p.WellFormed) {f : Instruction → Instruction}
    (hf : ∀ x, p.instructions[index]? = some x →
      (f x).name = x.name ∧ (f x).opcode.length = x.opcode.length ∧ (f x).register? = x.register?) :
    (p.modifyInstruction index f).WellFormed := by
  refine h.withInstructions (map_modify_eq fun x hx => ?_)
  obtain ⟨hname, hlength, hregister⟩ := hf x hx
  rw [hname, hlength, hregister]

theorem appendInstruction (h : p.WellFormed) {x : Instruction} (hfree : x.name ∉ p.instructions.map (·.name))
    (hlength : x.opcode.length = p.instructionLength) (hselected : ∀ i ∈ x.register?, i < p.registers.length) :
    { p with instructions := p.instructions ++ [x] }.WellFormed where
  __ := h
  active i hi := by
    have hlt := h.active i hi
    rw [List.length_append]
    omega
  selected := forall_mem_append_singleton.mpr ⟨h.selected, hselected⟩
  opcodes := forall_mem_append_singleton.mpr ⟨h.opcodes, hlength, x.captured_length.trans hlength⟩
  instructionNames := nodup_map_append.mpr ⟨h.instructionNames, hfree⟩

theorem appendSignal (h : p.WellFormed) (hfree : name ∉ p.signalNames) (pin? : Option String) :
    { p with signals := p.signals ++ [Signal.new name pin?] }.WellFormed where
  __ := h
  aliased a ha := by
    have hlt := h.aliased a ha
    rw [List.length_append]
    omega
  signalNames := by
    have hmiddle : (name :: p.signalNames).Nodup := List.nodup_cons.mpr ⟨hfree, h.signalNames⟩
    refine (List.Perm.nodup_iff ?_).mpr hmiddle
    simp [Part.signalNames, Signal.new, List.perm_middle]
  cells bit cell hcell := by
    obtain ⟨hbit, hsignal, hcontrol⟩ := h.cells bit cell hcell
    refine ⟨hbit, fun i hi => ?_, hcontrol⟩
    have hlt := hsignal i hi
    rw [List.length_append]
    omega
  mapped direction i s bit hs hbit := by
    rw [List.getElem?_append] at hs
    split at hs
    · exact h.mapped direction i s bit hs hbit
    · obtain rfl := List.mem_singleton.mp (List.mem_of_getElem? hs)
      cases direction <;> cases hbit

theorem appendAlias (h : p.WellFormed) (other : SignalAlias) (hfree : other.name ∉ p.signalNames)
    (hlt : other.signal < p.signals.length) : { p with aliases := p.aliases ++ [other] }.WellFormed where
  __ := h
  aliased := forall_mem_append_singleton.mpr ⟨h.aliased, hlt⟩
  signalNames := by
    have hnames : Part.signalNames { p with aliases := p.aliases ++ [other] } = p.signalNames ++ [other.name] := by
      simp [Part.signalNames]
    rw [hnames, ← List.concat_eq_append]
    exact .concat hfree h.signalNames

/-! ### Defining a cell -/

/-- A cell that is defined takes over its signal, in the directions that it serves. -/
theorem placed (h : p.WellFormed) {cell : BoundaryCell} (hfree : p.cell? cell.bit = none)
    (hbit : cell.bit < p.boundaryLength) (hsignal : ∀ i ∈ cell.signal?, i < p.signals.length)
    (hcontrol : ∀ control ∈ cell.control?, control.bit < p.boundaryLength) {signals : List Signal}
    (hsignals : signals.map (·.name) = p.signals.map (·.name))
    (hties : ∀ direction i s bit, signals[i]? = some s → s.bit? direction = some bit →
      (bit = cell.bit ∧ cell.signal? = some i ∧ cell.type.serves direction = true) ∨
        ∃ s₀, p.signals[i]? = some s₀ ∧ s₀.bit? direction = some bit) :
    { p with signals, cells := p.cells.set cell.bit (some cell) }.WellFormed := by
  have hcount : signals.length = p.signals.length := by simpa using congrArg List.length hsignals
  have hset : ∀ bit, Part.cell? { p with signals, cells := p.cells.set cell.bit (some cell) } bit =
      if bit = cell.bit then some cell else p.cell? bit := cell?_set cell rfl hbit
  have hlength : Part.boundaryLength { p with signals, cells := p.cells.set cell.bit (some cell) } = p.boundaryLength :=
    List.length_set
  exact { h with
    aliased := fun a ha => hcount ▸ h.aliased a ha
    signalNames := by
      have hkept := h.signalNames
      rw [Part.signalNames, ← hsignals] at hkept
      exact hkept
    boundary := fun r hr hname => hlength.trans (h.boundary r hr hname)
    noBoundary := fun hnone => hlength.trans (h.noBoundary hnone)
    cells := fun bit c hc => by
      rw [hset] at hc
      rw [hlength, hcount]
      split at hc
      · cases hc
        exact ⟨(‹bit = cell.bit›).symm, hsignal, hcontrol⟩
      · exact h.cells bit c hc
    mapped := fun direction i s bit hs hserved => by
      rcases hties direction i s bit hs hserved with ⟨rfl, howner, hserves⟩ | ⟨s₀, hs₀, hserved₀⟩
      · exact ⟨cell, by rw [hset, if_pos rfl], howner, hserves⟩
      · obtain ⟨c, hc, hfound⟩ := h.mapped direction i s₀ bit hs₀ hserved₀
        refine ⟨c, ?_, hfound⟩
        rw [hset, if_neg]
        · exact hc
        · rintro rfl
          rw [hfree] at hc
          cases hc }

theorem withCell (h : p.WellFormed) (cell : BoundaryCell) (hfree : p.cell? cell.bit = none)
    (hbit : cell.bit < p.boundaryLength) (hsignal : ∀ i ∈ cell.signal?, i < p.signals.length)
    (hcontrol : ∀ control ∈ cell.control?, control.bit < p.boundaryLength) (index : Nat) :
    (p.withCell index cell).WellFormed := by
  obtain ⟨signals, heq, hsame, hsignals⟩ := withCell_eq p index cell
  rw [heq]
  refine (h.loadBit index cell.bit cell.safe).placed hfree hbit hsignal hcontrol (map_fst_eq hsame) ?_
  intro direction i s bit hs hserved
  rw [hsignals] at hs
  obtain ⟨s₀, hs₀, rfl⟩ := Option.map_eq_some_iff.mp hs
  split at hserved
  · rw [bit?_tied] at hserved
    split at hserved
    · exact .inl ⟨(Option.some.inj hserved).symm, ‹_›, ‹_›⟩
    · exact .inr ⟨s₀, hs₀, hserved⟩
  · exact .inr ⟨s₀, hs₀, hserved⟩

/-! ### The calls -/

theorem prepareRegister (h : p.WellFormed) (hname : name ≠ bsr) (index length : Nat) :
    (p.prepareRegister name index length).WellFormed := by
  unfold Part.prepareRegister
  rw [if_neg hname]
  split
  · exact h.preloadCode index
  · exact h

/-- A part that has no boundary scan register yet has no cells, so none that a signal could be tied to. -/
theorem cut_of_noBoundary (h : p.WellFormed) (hnone : bsr ∉ p.registers.map (·.name)) :
    ∀ s ∈ p.signals, ∀ direction, s.bit? direction = none := by
  intro s hs direction
  cases hbit : s.bit? direction with
  | none => rfl
  | some bit =>
    obtain ⟨i, hi⟩ := List.mem_iff_getElem?.mp hs
    obtain ⟨cell, hcell, -⟩ := h.mapped direction i s bit hi hbit
    have hlt := cell?_lt hcell
    rw [h.noBoundary hnone] at hlt
    exact absurd hlt (Nat.not_lt_zero bit)

theorem added (h : p.WellFormed) (hfree : name ∉ p.registers.map (·.name)) (zeros : Register) (index : Nat) :
    ({ p with registers := p.registers ++ [cleared name zeros] }.prepareRegister name index zeros.length).WellFormed := by
  rcases eq_or_ne name bsr with rfl | hname
  · have hnames := nodup_map_append (a := cleared bsr zeros).mpr ⟨h.registerNames, hfree⟩
    have hlength : ∀ r ∈ p.registers ++ [cleared bsr zeros], r.name = bsr → r.length = zeros.length :=
      forall_mem_append_singleton.mpr ⟨fun r hr hname => absurd (hname ▸ List.mem_map_of_mem hr) hfree, fun _ => rfl⟩
    exact h.withBoundary hnames (by simp) (by simp [cleared]) hlength rfl (h.cut_of_noBoundary hfree)
  · exact (h.appendRegister (r := cleared name zeros) hfree hname).prepareRegister hname _ _

theorem resized (h : p.WellFormed) (hindex : p.registerIndex? name = .ok index) (zeros : Register) :
    (p.resized name index zeros).WellFormed := by
  obtain ⟨r, hr, hname⟩ := exists_of_registerIndex? hindex
  rcases eq_or_ne name bsr with rfl | hother
  · have hnames : (p.registers.modify index fun r => { r with input := zeros, output := zeros }).map (·.name) =
        p.registers.map (·.name) := map_modify_eq fun _ _ => rfl
    have heq : p.resized bsr index zeros = { p with
        registers := p.registers.modify index fun r => { r with input := zeros, output := zeros }
        signals := p.unmapSignals.signals
        cells := List.replicate zeros.length none } := by
      rw [Part.resized, if_pos rfl, Part.prepareRegister, if_pos rfl]
      rfl
    rw [heq]
    refine h.withBoundary (hnames ▸ h.registerNames) (by simp) ?_ (fun r' hr' hname' => ?_) ?_ ?_
    · rw [hnames, ← hname]
      exact List.mem_map_of_mem (List.mem_of_getElem? hr)
    · -- The name is taken once, so it is the resized register that has it.
      obtain ⟨k, hk⟩ := List.mem_iff_getElem?.mp hr'
      rw [List.getElem?_modify] at hk
      obtain ⟨r₀, hr₀, rfl⟩ := Option.map_eq_some_iff.mp hk
      have hname₀ : r₀.name = bsr := by
        rw [← hname']
        split <;> rfl
      have hfound := (findIdx?_name_eq_some h.registerNames).mpr ⟨r₀, hr₀, hname₀⟩
      rw [registerIndex?_eq_ok.mp hindex] at hfound
      rw [if_pos (Option.some.inj hfound)]
      rfl
    · exact List.map_map
    · intro s hs direction
      obtain ⟨s₀, -, rfl⟩ := List.mem_map.mp hs
      cases direction <;> rfl
  · have hkept : (p.modifyRegister index fun r => { r with input := zeros, output := zeros }).WellFormed := by
      refine h.modifyRegister fun r' hr' => ⟨rfl, fun hbsr => ?_⟩
      rw [hr] at hr'
      cases hr'
      exact absurd (hname.symm.trans hbsr) hother
    have hprepared := hkept.prepareRegister hother index zeros.length
    rw [Part.resized, if_neg hother]
    exact hprepared

end WellFormed
end Part
end Jtag
