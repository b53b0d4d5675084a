import Jtag.Proofs.Part.Define
import Jtag.Proofs.Part.Described

/-! What each entry of a description makes of a part, and that the descriptions that are accepted are those that make
    sense. Entries are read in a fixed order, so that what an entry refers to is there before it: no instruction has
    been listed while registers are, no other name while signals are, and no cell while either of them are. -/

namespace Jtag
namespace Part

open Jtag.Action Jtag.Description

variable {p p' : Part} {d d' : Description} {id? : Option IdCode} {name : String} {index bit : Nat}

namespace Realizes

variable (h : p.Realizes d)
include h

theorem registerNames : p.registers.map (·.name) = d.registers.map (·.name) := map_fst_eq h.registers

theorem instructionNames : p.instructions.map (·.name) = d.instructions.map (·.name) := map_fst_eq h.instructions

theorem instructions_eq_nil (hnone : d.instructions = []) : p.instructions = [] := by
  have hnames := h.instructionNames
  rw [hnone, List.map_nil] at hnames
  exact List.map_eq_nil_iff.mp hnames

theorem ownNames : p.signals.map (·.name) = d.signals.map (·.name) := map_fst_eq h.signals

theorem signalNames : p.signalNames = d.signals.map (·.name) ++ d.aliases.map (·.name) := by
  rw [Part.signalNames, h.ownNames, h.aliases]

theorem cell?_eq_none : p.cell? bit = none ↔ bit ∉ d.cells.map (·.bit) := by
  have hcell := h.cells bit
  rw [← Option.map_eq_none_iff, hcell, Option.map_eq_none_iff, List.find?_eq_none]
  simp only [beq_iff_eq, List.mem_map, not_exists, not_and]

/-- The register at a position is the one that is listed there. -/
theorem register {r : DataRegister} (hr : p.registers[index]? = some r) :
    ∃ entry, d.registers[index]? = some entry ∧ entry.name = r.name ∧ r.input.bits = d.contents entry ∧
      r.input.length = entry.length := by
  have hsame : (p.registers.map fun r => (r.name, r.input.bits, r.output.length))[index]? =
      (d.registers.map fun r => (r.name, d.contents r, r.length))[index]? := by rw [h.registers]
  rw [List.getElem?_map, List.getElem?_map, hr] at hsame
  obtain ⟨entry, hentry, heq⟩ := Option.map_eq_some_iff.mp hsame.symm
  simp only [Prod.mk.injEq] at heq
  refine ⟨entry, hentry, heq.1, heq.2.1.symm, ?_⟩
  rw [Register.length, ← heq.2.1]
  simp [contents]

end Realizes

/-! ### Instruction length and data registers -/

theorem Extends.call {c : Call} (down : d'.WellFormed → d.WellFormed)
    (accepts : ∀ p, p.WellFormed → p.Realizes d → d'.WellFormed → ∃ p', c.act.runOn p = (.ok (), p'))
    (sound : ∀ p p', p.WellFormed → p.Realizes d → d.WellFormed → c.act.runOn p = (.ok (), p') →
      d'.WellFormed ∧ p'.Realizes d') : Extends c.act d d' where
  down := down
  accepts := accepts
  sound p p' hp hrealizes hd hrun := by
    have hp' := (WellFormed.act c).holds hp
    rw [hrun] at hp'
    exact ⟨hp', sound p p' hp hrealizes hd hrun⟩

theorem extends_length (hnone : d.instructions = []) (length : Nat) :
    Extends (setInstructionLength length) d { d with instructionLength := length } := by
  have hcodes : ∀ {P : InstructionEntry → Prop}, ∀ x ∈ d.instructions, P x := by simp [hnone]
  refine Extends.call (c := .setInstructionLength length) (fun hd => ⟨hd.1, hd.2, hd.3, hcodes, hd.5, hd.6, hd.7, hd.8, hd.9⟩)
    (fun p _ hrealizes _ => ?_) (fun p p' _ hrealizes hd hrun => ?_)
  · exact ⟨_, setInstructionLength_eq_ok.mpr ⟨fun hne => absurd (hrealizes.instructions_eq_nil hnone) hne, rfl⟩⟩
  · obtain ⟨-, rfl⟩ := setInstructionLength_eq_ok.mp hrun
    exact ⟨{ hd with codes := hcodes }, { hrealizes with instructionLength := rfl }⟩

theorem prepareRegister_cells (hnone : ∀ bit, p.cell? bit = none) (name : String) (index length bit : Nat) :
    (p.prepareRegister name index length).cell? bit = none := by
  unfold prepareRegister preloadCode
  split
  · exact cell?_blank length rfl bit
  · split
    · split <;> exact hnone bit
    · exact hnone bit

theorem contents_of_noCells (hnone : d.cells = []) (r : RegisterEntry) : d.contents r = List.replicate r.length false := by
  have hsafe : ∀ bit, d.safe bit = false := fun bit => by rw [safe, hnone]; rfl
  rw [contents]
  simp only [hsafe, Bool.and_false, List.map_const', List.length_range]

theorem extends_register (hinstructions : d.instructions = []) (hcells : d.cells = []) (r : RegisterEntry) :
    Extends (do let _ ← addRegister r.name r.length) d { d with registers := d.registers ++ [r] } := by
  refine Extends.call (c := .addRegister r.name r.length) (fun hd => ?_) (fun p _ hrealizes hd => ?_)
    (fun p p' _ hrealizes hd hrun => ?_)
  · exact { hd with
      registerNames := (nodup_map_append.mp hd.registerNames).1
      lengths := (forall_mem_append_singleton.mp hd.lengths).1
      selections := by simp [hinstructions]
      cells := by simp [hcells] }
  · have hfree := (nodup_map_append.mp hd.registerNames).2
    rw [← hrealizes.registerNames] at hfree
    obtain ⟨_, -, hadd⟩ := addRegister_ok hfree (forall_mem_append_singleton.mp hd.lengths).2
    exact ⟨_, runOn_bind_ok hadd _⟩
  · obtain ⟨i, hadd⟩ := runOn_discard_eq_ok.mp hrun
    obtain ⟨hfree, zeros, hzeros, -, rfl⟩ := addRegister_eq_ok.mp hadd
    have hlength : zeros.length = r.length := by rw [Register.length, hzeros, List.length_replicate]
    refine ⟨{ hd with
      registerNames := nodup_map_append.mpr ⟨hd.registerNames, hrealizes.registerNames ▸ hfree⟩
      lengths := forall_mem_append_singleton.mpr ⟨hd.lengths, hlength ▸ zeros.length_pos⟩
      selections := by simp [hinstructions]
      cells := by simp [hcells] }, ?_⟩
    have hnone : ∀ bit, p.cell? bit = none := fun bit => hrealizes.cell?_eq_none.mpr (by simp [hcells])
    have hcell := prepareRegister_cells (p := { p with registers := p.registers ++ [cleared r.name zeros] }) hnone
      r.name p.registers.length r.length
    obtain ⟨registers, cells, heq, hregisters⟩ := prepareRegister_eq
      { p with registers := p.registers ++ [cleared r.name zeros] } r.name p.registers.length r.length
    rw [heq] at hcell ⊢
    exact { hrealizes with
      registers := by
        rw [hregisters, List.map_append, hrealizes.registers, List.map_append]
        have hnew : Description.contents { d with registers := d.registers ++ [r] } r = List.replicate r.length false :=
          contents_of_noCells hcells r
        simp only [cleared, hzeros, hlength, List.map_cons, List.map_nil, hnew]
        rfl
      instructions := by
        have hempty := hrealizes.instructions_eq_nil hinstructions
        simp [hempty, hinstructions]
      cells := fun bit => by
        rw [hcell]
        simp [hcells] }

/-! ### Instructions and signals -/

theorem selection?_eq_ok {register? : Option String} :
    (∃ selected, p.selection? register? = .ok selected) ↔ ∀ name ∈ register?, name ∈ p.registers.map (·.name) := by
  cases register? with
  | none => exact ⟨fun _ => nofun, fun _ => ⟨none, rfl⟩⟩
  | some name =>
    have hfound : _ ↔ name ∈ p.registers.map (·.name) := exists_registerIndex?_iff
    rw [selection?]
    cases hindex : p.registerIndex? name <;> simp_all [Except.map]

/-- An instruction selects the register that it asks for. -/
theorem selectedName?_selecting {register? : Option String} {selected : Option Nat}
    (h : p.selection? register? = .ok selected) (name : String) (opcode : Register) :
    p.selectedName? (selecting name opcode selected) = register? := by
  cases register? with
  | none =>
    cases h
    rfl
  | some register =>
    cases hindex : p.registerIndex? register with
    | error e =>
      rw [selection?, hindex] at h
      cases h
    | ok index =>
      rw [selection?, hindex] at h
      cases h
      obtain ⟨r, hr, rfl⟩ := exists_of_registerIndex? hindex
      show (p.registers.map (·.name))[index]? = some r.name
      rw [List.getElem?_map, hr, Option.map_some]

theorem extends_instruction (x : InstructionEntry) :
    Extends (do let _ ← addInstruction x.name x.code x.register?) d { d with instructions := d.instructions ++ [x] } := by
  refine Extends.call (c := .addInstruction x.name x.code x.register?) (fun hd => ?_) (fun p _ hrealizes hd => ?_)
    (fun p p' _ hrealizes hd hrun => ?_)
  · exact { hd with
      instructionNames := (nodup_map_append.mp hd.instructionNames).1
      codes := (forall_mem_append_singleton.mp hd.codes).1
      selections := (forall_mem_append_singleton.mp hd.selections).1 }
  · have hfree := (nodup_map_append.mp hd.instructionNames).2
    rw [← hrealizes.instructionNames] at hfree
    obtain ⟨opcode, hcode, hlength⟩ := Register.exists_text_iff.mpr (forall_mem_append_singleton.mp hd.codes).2
    obtain ⟨selected, hselected⟩ := selection?_eq_ok.mpr fun name hname =>
      hrealizes.registerNames ▸ (forall_mem_append_singleton.mp hd.selections).2 name hname
    exact ⟨_, runOn_discard_eq_ok.mpr ⟨_, addInstruction_eq_ok.mpr ⟨hfree, opcode, selected, hcode,
      hlength.trans hrealizes.instructionLength.symm, hselected, rfl, rfl⟩⟩⟩
  · obtain ⟨i, hadd⟩ := runOn_discard_eq_ok.mp hrun
    obtain ⟨hfree, opcode, selected, hcode, hlength, hselected, -, rfl⟩ := addInstruction_eq_ok.mp hadd
    rw [hrealizes.instructionLength] at hlength
    have hfound : ∀ name ∈ x.register?, name ∈ d.registers.map (·.name) :=
      hrealizes.registerNames ▸ selection?_eq_ok.mp ⟨selected, hselected⟩
    refine ⟨{ hd with
      instructionNames := nodup_map_append.mpr ⟨hd.instructionNames, hrealizes.instructionNames ▸ hfree⟩
      codes := forall_mem_append_singleton.mpr ⟨hd.codes, Register.exists_text_iff.mp ⟨opcode, hcode, hlength⟩⟩
      selections := forall_mem_append_singleton.mpr ⟨hd.selections, hfound⟩ }, { hrealizes with instructions := ?_ }⟩
    rw [List.map_append, List.map_append]
    refine congr (congrArg _ hrealizes.instructions) ?_
    have hname := selectedName?_selecting hselected x.name opcode
    rw [List.map_singleton, List.map_singleton, hcode]
    exact congrArg (fun register? => [(x.name, opcode.text, register?)]) hname

theorem not_exists_isLast (hcells : d.cells = []) (P : CellEntry → Prop) (bit : Nat) :
    ¬∃ c, IsLast P d.cells c ∧ c.bit = bit := by
  rintro ⟨c, hc, -⟩
  rw [hcells] at hc
  exact not_isLast_nil hc

/-- Without other names, a name leads to the signal that it is the own one of. -/
theorem names_of_noAliases (hp : p.aliases = []) (hd : d.aliases = [])
    (hsame : p.signals.map (·.name) = d.signals.map (·.name)) (hnodup : (d.signals.map (·.name)).Nodup) (i : Nat) :
    p.signalIndex? name = .ok i ↔ ∃ s, d.signals[i]? = some s ∧ d.Names s.name name := by
  rw [signalIndex?_eq_ok, hp, List.find?_nil, findIdx?_name_eq_some (hsame ▸ hnodup)]
  have hlisted : (p.signals.map (·.name))[i]? = (d.signals.map (·.name))[i]? := by rw [hsame]
  rw [List.getElem?_map, List.getElem?_map] at hlisted
  constructor
  · rintro (⟨s, hs, rfl⟩ | ⟨-, other, hother, -⟩)
    · rw [hs] at hlisted
      obtain ⟨entry, hentry, heq⟩ := Option.map_eq_some_iff.mp hlisted.symm
      refine ⟨entry, hentry, ?_⟩
      rw [Names, hd, named_nil]
      exact ⟨heq.symm, List.mem_map_of_mem (List.mem_of_getElem? hentry)⟩
    · cases hother
  · rintro ⟨entry, hentry, hname⟩
    rw [Names, hd, named_nil] at hname
    rw [hentry] at hlisted
    obtain ⟨s, hs, heq⟩ := Option.map_eq_some_iff.mp hlisted
    exact .inl ⟨s, hs, heq.trans hname.1.symm⟩

theorem extends_signal (haliases : d.aliases = []) (hcells : d.cells = []) (s : SignalEntry) :
    Extends (do let _ ← addSignal s.name s.pin?) d { d with signals := d.signals ++ [s] } := by
  refine Extends.call (c := .addSignal s.name s.pin?) (fun hd => ?_) (fun p _ hrealizes hd => ?_)
    (fun p p' _ hrealizes hd hrun => ?_)
  · exact { hd with
      signalNames := (nodup_map_append.mp hd.signalNames).1
      aliases := by simp [haliases] }
  · have hfree : s.name ∉ p.signalNames := by
      rw [hrealizes.signalNames, haliases, List.map_nil, List.append_nil]
      exact (nodup_map_append.mp hd.signalNames).2
    exact ⟨_, runOn_discard_eq_ok.mpr ⟨_, addSignal_eq_ok.mpr ⟨hfree, rfl, rfl⟩⟩⟩
  · obtain ⟨i, hadd⟩ := runOn_discard_eq_ok.mp hrun
    obtain ⟨hfree, -, rfl⟩ := addSignal_eq_ok.mp hadd
    rw [hrealizes.signalNames, haliases, List.map_nil, List.append_nil] at hfree
    have hnodup := nodup_map_append.mpr ⟨hd.signalNames, hfree⟩
    refine ⟨{ hd with
      signalNames := hnodup
      aliases := by simp [haliases] }, { hrealizes with
      signals := by rw [List.map_append, List.map_append, hrealizes.signals]; rfl
      names := fun name i => ?_
      mapped := fun s' hs' direction bit => ?_ }⟩
    · refine names_of_noAliases (p := { p with signals := p.signals ++ [Signal.new s.name s.pin?] })
        (d := { d with signals := d.signals ++ [s] }) ?_ haliases ?_ hnodup i
      · exact List.map_eq_nil_iff.mp (hrealizes.aliases.trans (by rw [haliases]; rfl))
      · rw [List.map_append, List.map_append, hrealizes.ownNames]
        rfl
    · have hnone := fun P => not_exists_isLast hcells P bit
      rcases List.mem_append.mp hs' with hs' | hs'
      · exact (hrealizes.mapped s' hs' direction bit).trans (iff_of_false (hnone _) (hnone _))
      · obtain rfl := List.mem_singleton.mp hs'
        refine iff_of_false ?_ (hnone _)
        cases direction <;> exact nofun

theorem signalIndex?_append (other : SignalAlias) (hfree : other.name ∉ p.signalNames) {i : Nat} :
    signalIndex? { p with aliases := p.aliases ++ [other] } name = .ok i ↔
      p.signalIndex? name = .ok i ∨ name = other.name ∧ other.signal = i := by
  rw [signalNames, List.mem_append, not_or] at hfree
  rw [signalIndex?_eq_ok, signalIndex?_eq_ok]
  dsimp only
  rw [List.find?_append]
  by_cases hname : name = other.name
  · subst name
    have hnone : p.aliases.find? (·.name == other.name) = none := by
      simpa only [List.find?_eq_none, beq_iff_eq, List.mem_map, not_exists, not_and] using hfree.2
    simp [hnone, hfree.1]
  · simp [hname, Ne.symm hname]

theorem extends_alias (hcells : d.cells = []) (a : AliasEntry) :
    Extends (addAlias a.name a.signal) d { d with aliases := d.aliases ++ [a] } := by
  have hfits : Description.WellFormed { d with aliases := d.aliases ++ [a] } →
      (∀ i b, d.aliases[i]? = some b → AliasFits (d.signals.map (·.name)) (d.aliases.take i) b) ∧
        AliasFits (d.signals.map (·.name)) d.aliases a := fun hd => forall_take_append.mp hd.aliases
  refine Extends.call (c := .addAlias a.name a.signal) (fun hd => ?_) (fun p _ hrealizes hd => ?_)
    (fun p p' _ hrealizes hd hrun => ?_)
  · exact { hd with aliases := (hfits hd).1 }
  · have hfit := (hfits hd).2
    rw [AliasFits, ← hrealizes.signalNames] at hfit
    obtain ⟨i, hi⟩ := exists_signalIndex?_iff.mpr hfit.2
    exact ⟨_, addAlias_eq_ok.mpr ⟨hfit.1, i, hi, rfl⟩⟩
  · obtain ⟨hfree, i, hi, rfl⟩ := addAlias_eq_ok.mp hrun
    have hfit : AliasFits (d.signals.map (·.name)) d.aliases a := by
      rw [AliasFits, ← hrealizes.signalNames]
      exact ⟨hfree, exists_signalIndex?_iff.mp ⟨i, hi⟩⟩
    have hclosed : ∀ a' ∈ d.aliases, a'.signal ∈ d.signals.map (·.name) ++ d.aliases.map (·.name) := by
      intro a' ha'
      obtain ⟨k, hk⟩ := List.mem_iff_getElem?.mp ha'
      refine List.mem_append.mpr ((List.mem_append.mp (hd.aliases k a' hk).2).imp_right fun hmem => ?_)
      rw [List.map_take] at hmem
      exact List.mem_of_mem_take hmem
    refine ⟨{ hd with aliases := forall_take_append.mpr ⟨hd.aliases, hfit⟩ }, { hrealizes with
      aliases := by rw [List.map_append, List.map_append, hrealizes.aliases]; rfl
      names := fun name j => ?_
      mapped := fun s hs direction bit => ?_ }⟩
    · have hnew : ∀ signal, Description.Names { d with aliases := d.aliases ++ [a] } signal name ↔
          d.Names signal name ∨ name = a.name ∧ d.Names signal a.signal := fun _ => named_append hclosed hfit
      rw [signalIndex?_append ⟨a.name, i⟩ hfree, hrealizes.names]
      constructor
      · rintro (⟨s, hs, hname⟩ | ⟨hname, rfl⟩)
        · exact ⟨s, hs, (hnew s.name).mpr (.inl hname)⟩
        · obtain ⟨s, hs, htarget⟩ := (hrealizes.names a.signal i).mp hi
          exact ⟨s, hs, (hnew s.name).mpr (.inr ⟨hname, htarget⟩)⟩
      · rintro ⟨s, hs, hname⟩
        rcases (hnew s.name).mp hname with hname | ⟨hname, htarget⟩
        · exact .inl ⟨s, hs, hname⟩
        · have hj := (hrealizes.names a.signal j).mpr ⟨s, hs, htarget⟩
          rw [hi] at hj
          exact .inr ⟨hname, Except.ok.inj hj⟩
    · have hnone := fun P => not_exists_isLast hcells P bit
      exact (hrealizes.mapped s hs direction bit).trans (iff_of_false (hnone _) (hnone _))

/-! ### Boundary cells -/

/-- A cell fits into the boundary scan register of the part just where it fits into the one that is listed. -/
theorem cellFits_iff (hp : p.WellFormed) (hrealizes : p.Realizes d) (hd : d.WellFormed) {c : CellEntry} :
    CellFits d.registers c ↔ ∃ index r, p.boundaryIndex? = .ok index ∧ p.registers[index]? = some r ∧
      c.bit < p.boundaryLength ∧ ∀ control ∈ c.control?, control.bit < p.boundaryLength := by
  have hfound : ∀ index r, p.boundaryIndex? = .ok index → p.registers[index]? = some r →
      ∃ entry ∈ d.registers, entry.name = bsr ∧ entry.length = p.boundaryLength := by
    intro index r hindex hr
    obtain ⟨r', hr', hname⟩ := exists_of_boundaryIndex? hindex
    obtain rfl := Option.some.inj (hr.symm.trans hr')
    obtain ⟨entry, hentry, hsame, -, hlength⟩ := hrealizes.register hr
    exact ⟨entry, List.mem_of_getElem? hentry, hsame.trans hname,
      hlength.symm.trans (hp.boundary r (List.mem_of_getElem? hr) hname).symm⟩
  constructor
  · rintro ⟨entry, hentry, hname, hbit, hcontrol⟩
    obtain ⟨index, hindex⟩ : ∃ index, p.registerIndex? bsr = .ok index := by
      rw [exists_registerIndex?_iff, hrealizes.registerNames, ← hname]
      exact List.mem_map_of_mem hentry
    have hboundary := boundaryIndex?_eq_ok.mpr hindex
    obtain ⟨r, hr, -⟩ := exists_of_registerIndex? hindex
    obtain ⟨entry', hentry', hname', hlength⟩ := hfound index r hboundary hr
    obtain rfl := List.inj_on_of_nodup_map hd.registerNames hentry hentry' (hname.trans hname'.symm)
    exact ⟨index, r, hboundary, hr, hlength ▸ hbit, hlength ▸ hcontrol⟩
  · rintro ⟨index, r, hindex, hr, hbit, hcontrol⟩
    obtain ⟨entry, hentry, hname, hlength⟩ := hfound index r hindex hr
    exact ⟨entry, hentry, hname, hlength ▸ hbit, hlength ▸ hcontrol⟩

theorem find?_append_cell {c : CellEntry} (hfree : c.bit ∉ d.cells.map (·.bit)) (bit : Nat) :
    (d.cells ++ [c]).find? (·.bit == bit) = if bit = c.bit then some c else d.cells.find? (·.bit == bit) := by
  rw [List.find?_append]
  split
  · subst bit
    have hnone : d.cells.find? (·.bit == c.bit) = none := by
      simpa only [List.find?_eq_none, beq_iff_eq, List.mem_map, not_exists, not_and] using hfree
    simp [hnone]
  · simp [Ne.symm ‹bit ≠ c.bit›]

theorem contents_append_cell {c : CellEntry} (hfree : c.bit ∉ d.cells.map (·.bit)) (r : RegisterEntry) :
    Description.contents { d with cells := d.cells ++ [c] } r =
      if r.name = bsr then (d.contents r).set c.bit c.safe else d.contents r := by
  have hsafe : ∀ bit, Description.safe { d with cells := d.cells ++ [c] } bit = if bit = c.bit then c.safe else d.safe bit := by
    intro bit
    rw [safe, find?_append_cell hfree]
    split <;> rfl
  unfold contents
  split
  · refine List.ext_getElem (by simp) fun k hk _ => ?_
    simp [hsafe, List.getElem_set, eq_comm, ‹r.name = bsr›]
  · rw [beq_false_of_ne ‹r.name ≠ bsr›]
    simp

theorem signalIndex?_congr (hnames : p'.signals.map (·.name) = p.signals.map (·.name)) (haliases : p'.aliases = p.aliases)
    {i : Nat} : p'.signalIndex? name = .ok i ↔ p.signalIndex? name = .ok i := by
  have hfind : ∀ l : List Signal, l.findIdx? (·.name == name) = (l.map (·.name)).findIdx? (· == name) :=
    fun l => by rw [List.findIdx?_map]; rfl
  rw [signalIndex?, signalIndex?, hfind, hfind, hnames, haliases]

/-- The cell that an entry defines. -/
def cellOf (p : Part) (c : CellEntry) : BoundaryCell :=
  ⟨c.bit, c.signal?.getD "", c.type, (p.signalIndex? (c.signal?.getD "")).toOption, c.safe, c.control?⟩

namespace Realizes

variable {c : CellEntry} (h : p.Realizes d)
include h

theorem registers_loadBit (hd : d.WellFormed) (hindex : p.boundaryIndex? = .ok index)
    (hfree : c.bit ∉ d.cells.map (·.bit)) :
    (p.loadBit index c.bit c.safe).registers.map (fun r => (r.name, r.input.bits, r.output.length)) =
      d.registers.map fun r => (r.name, Description.contents { d with cells := d.cells ++ [c] } r, r.length) := by
  refine List.ext_getElem? fun k => ?_
  have hlisted : (p.registers.map fun r => (r.name, r.input.bits, r.output.length))[k]? =
      (d.registers.map fun r => (r.name, d.contents r, r.length))[k]? := by rw [h.registers]
  rw [List.getElem?_map, List.getElem?_map] at hlisted ⊢
  rw [loadBit, modifyRegister, List.getElem?_modify]
  cases hr : p.registers[k]? with
  | none =>
    rw [hr] at hlisted
    rw [Option.map_eq_none_iff.mp hlisted.symm]
    rfl
  | some r =>
    rw [hr] at hlisted
    obtain ⟨entry, hentry, heq⟩ := Option.map_eq_some_iff.mp hlisted.symm
    simp only [Prod.mk.injEq] at heq
    -- The boundary scan register is the one at the position, and no other one.
    have hsame : index = k ↔ entry.name = bsr := by
      have hfound := registerIndex?_eq_ok.mp (boundaryIndex?_eq_ok.mp hindex)
      constructor
      · rintro rfl
        obtain ⟨r', hr', hname⟩ := exists_of_findIdx?_name hfound
        obtain rfl := Option.some.inj (hr.symm.trans hr')
        exact heq.1.trans hname
      · intro hname
        have hk := (findIdx?_name_eq_some (h.registerNames ▸ hd.registerNames)).mpr ⟨r, hr, heq.1.symm.trans hname⟩
        exact Option.some.inj (hfound.symm.trans hk)
    rw [hentry, Option.map_some, contents_append_cell hfree]
    by_cases hk : index = k
    · rw [if_pos (hsame.mp hk), heq.1, heq.2.1, heq.2.2]
      simp [hk, Register.write, Register.withBits]
    · rw [if_neg (fun hname => hk (hsame.mpr hname)), heq.1, heq.2.1, heq.2.2]
      simp [hk]

theorem cellOf_signal? {i : Nat} {s : Signal} (hs : p.signals[i]? = some s) :
    (p.cellOf c).signal? = some i ↔ d.Names s.name (c.signal?.getD "") := by
  have hlisted : (p.signals.map (·.name))[i]? = (d.signals.map (·.name))[i]? := by rw [h.ownNames]
  rw [List.getElem?_map, List.getElem?_map, hs] at hlisted
  obtain ⟨entry, hentry, hname⟩ := Option.map_eq_some_iff.mp hlisted.symm
  have hfound : (p.cellOf c).signal? = some i ↔ p.signalIndex? (c.signal?.getD "") = .ok i := by
    show (p.signalIndex? (c.signal?.getD "")).toOption = some i ↔ _
    cases p.signalIndex? (c.signal?.getD "") <;> simp [Except.toOption]
  rw [hfound, h.names, hentry]
  simp [hname]

/-- The last cell that a signal is tied to counts. -/
theorem mapped_append {i : Nat} {s : Signal} (hs : p.signals[i]? = some s) (direction : Direction) (bit : Nat) :
    (if (p.cellOf c).signal? = some i then Signal.tied s c.bit c.type else s).bit? direction = some bit ↔
      ∃ c', IsLast (d.Ties s.name direction) (d.cells ++ [c]) c' ∧ c'.bit = bit := by
  have howner := h.cellOf_signal? (c := c) hs
  have hmapped := h.mapped s (List.mem_of_getElem? hs) direction bit
  simp only [isLast_append]
  by_cases hties : d.Ties s.name direction c
  · rw [if_pos (howner.mpr hties.2), bit?_tied, if_pos hties.1]
    simp [hties]
  · have hkept : (if (p.cellOf c).signal? = some i then Signal.tied s c.bit c.type else s).bit? direction =
        s.bit? direction := by
      split
      · rw [bit?_tied, if_neg fun hserves => hties ⟨hserves, howner.mp ‹_›⟩]
      · rfl
    rw [hkept, hmapped]
    simp [hties]

theorem withCell (hd : d.WellFormed) (hindex : p.boundaryIndex? = .ok index) (hlt : c.bit < p.boundaryLength)
    (hfree : c.bit ∉ d.cells.map (·.bit)) :
    (p.withCell index (p.cellOf c)).Realizes { d with cells := d.cells ++ [c] } := by
  obtain ⟨signals, heq, hsame, hsignals⟩ := withCell_eq p index (p.cellOf c)
  have hregisters := h.registers_loadBit hd hindex hfree
  have hselected : ∀ x, selectedName? { p with
      registers := (p.loadBit index c.bit c.safe).registers, signals, cells := p.cells.set c.bit (some (p.cellOf c)) } x =
        p.selectedName? x := by
    intro x
    have hnames : (p.loadBit index c.bit c.safe).registers.map (·.name) = p.registers.map (·.name) :=
      map_modify_eq fun _ _ => rfl
    rw [selectedName?, hnames, selectedName?]
  rw [heq]
  exact { h with
    registers := hregisters
    instructions := by
      rw [← h.instructions]
      exact List.map_congr_left fun x _ => congrArg _ (congrArg _ (hselected x))
    signals := hsame.trans h.signals
    names := fun name i => by
      have hnames := map_fst_eq hsame
      refine Iff.trans (signalIndex?_congr ?_ ?_) (h.names name i)
      · exact hnames
      · rfl
    cells := fun bit => by
      rw [cell?_set (p.cellOf c) rfl hlt, find?_append_cell hfree]
      split
      · rfl
      · exact h.cells bit
    mapped := by
      intro s hs direction bit
      obtain ⟨i, hi⟩ := List.mem_iff_getElem?.mp hs
      rw [hsignals] at hi
      obtain ⟨s₀, hs₀, rfl⟩ := Option.map_eq_some_iff.mp hi
      have hname : (if (p.cellOf c).signal? = some i then Signal.tied s₀ c.bit c.type else s₀).name = s₀.name := by
        split <;> rfl
      have hmapped := h.mapped_append (c := c) hs₀ direction bit
      rw [← hname] at hmapped
      exact hmapped }

end Realizes

theorem extends_cell (c : CellEntry) :
    Extends (defineCell c.bit c.type c.safe (c.signal?.getD "") c.control?) d { d with cells := d.cells ++ [c] } := by
  have hdown : Description.WellFormed { d with cells := d.cells ++ [c] } → d.WellFormed := fun hd => { hd with
    cells := (forall_mem_append_singleton.mp hd.cells).1
    bits := (nodup_map_append.mp hd.bits).1 }
  refine Extends.call (c := .defineCell c.bit c.type c.safe (c.signal?.getD "") c.control?) hdown
    (fun p hp hrealizes hd => ?_) (fun p p' hp hrealizes hd hrun => ?_)
  · obtain ⟨index, r, hindex, hr, hbit, hcontrol⟩ := (cellFits_iff hp hrealizes (hdown hd)).mp
      (forall_mem_append_singleton.mp hd.cells).2
    have hfree := hrealizes.cell?_eq_none.mpr (nodup_map_append.mp hd.bits).2
    obtain ⟨r', hr', hname⟩ := exists_of_boundaryIndex? hindex
    obtain rfl := Option.some.inj (hr.symm.trans hr')
    have hlength : p.boundaryLength = r.input.length := hp.boundary r (List.mem_of_getElem? hr) hname
    exact ⟨_, defineCell_eq_ok.mpr ⟨index, r, hindex, hr, hbit, hcontrol, hfree, hlength ▸ hbit, rfl⟩⟩
  · obtain ⟨index, r, hindex, hr, hbit, hcontrol, hnone, hlt, hp'⟩ := defineCell_eq_ok.mp hrun
    have hfree := hrealizes.cell?_eq_none.mp hnone
    have hfits := (cellFits_iff hp hrealizes hd).mpr ⟨index, r, hindex, hr, hbit, hcontrol⟩
    refine ⟨{ hd with
      cells := forall_mem_append_singleton.mpr ⟨hd.cells, hfits⟩
      bits := nodup_map_append.mpr ⟨hd.bits, hfree⟩ }, ?_⟩
    rw [hp']
    exact hrealizes.withCell hd hindex hbit hfree

/-! ### Whole descriptions -/

/-- The description before its first entry. -/
def unlisted (d : Description) : Description :=
  { d with instructionLength := 0, registers := [], instructions := [], signals := [], aliases := [], cells := [] }

theorem wellFormed_unlisted (d : Description) : (unlisted d).WellFormed where
  registerNames := List.nodup_nil
  lengths := nofun
  instructionNames := List.nodup_nil
  codes := nofun
  selections := nofun
  signalNames := List.nodup_nil
  aliases := nofun
  cells := nofun
  bits := List.nodup_nil

theorem realizes_unlisted (id? : Option IdCode) (d : Description) : (blank id? d).Realizes (unlisted d) where
  labels := ⟨rfl, rfl, rfl⟩
  instructionLength := rfl
  registers := rfl
  instructions := rfl
  signals := rfl
  aliases := rfl
  names _ _ := ⟨nofun, nofun⟩
  cells _ := rfl
  mapped := nofun

theorem extends_define (d : Description) : Extends (define d) (unlisted d) d := by
  refine (extends_length (d := unlisted d) rfl d.instructionLength).bind ?_
  refine (Extends.forM (g := fun registers =>
    { d with registers, instructions := [], signals := [], aliases := [], cells := [] })
      (fun _ r => extends_register rfl rfl r) d.registers []).bind ?_
  refine (Extends.forM (g := fun instructions => { d with instructions, signals := [], aliases := [], cells := [] })
      (fun _ x => extends_instruction x) d.instructions []).bind ?_
  refine (Extends.forM (g := fun signals => { d with signals, aliases := [], cells := [] })
      (fun _ s => extends_signal rfl rfl s) d.signals []).bind ?_
  refine (Extends.forM (g := fun aliases => { d with aliases, cells := [] })
      (fun _ a => extends_alias rfl a) d.aliases []).bind ?_
  exact Extends.forM (g := fun cells => { d with cells }) (fun _ c => extends_cell c) d.cells []

theorem blank_wellFormed (id? : Option IdCode) (d : Description) : (blank id? d).WellFormed :=
  (WellFormed.new id?).labelled none d.manufacturer d.name d.stepping

/-- What is set up is well formed, and so is the description, which it realizes. -/
theorem ofDescription?_sound {id? : Option IdCode} {d : Description} {p : Part} (h : ofDescription? id? d = .ok p) :
    p.WellFormed ∧ d.WellFormed ∧ p.Realizes d :=
  (extends_define d).sound _ p (blank_wellFormed id? d) (realizes_unlisted id? d) (wellFormed_unlisted d)
    (ofDescription?_eq_ok.mp h)

/-- A description is accepted exactly if it makes sense, and the part that it sets up is the one that it describes. -/
theorem ofDescription?_accepts (id? : Option IdCode) (d : Description) :
    ((∃ p, ofDescription? id? d = .ok p) ↔ d.WellFormed) ∧ ∀ p, ofDescription? id? d = .ok p → p.Realizes d := by
  refine ⟨⟨fun ⟨p, hp⟩ => (ofDescription?_sound hp).2.1, fun hd => ?_⟩, fun p hp => (ofDescription?_sound hp).2.2⟩
  obtain ⟨p, hrun⟩ := (extends_define d).accepts _ (blank_wellFormed id? d) (realizes_unlisted id? d) hd
  exact ⟨p, ofDescription?_eq_ok.mpr hrun⟩

/-- A description with a pin of two names, two cells for it, and a cell without a signal. -/
def widget : Description where
  manufacturer := "Acme"
  name := "Widget"
  stepping := "1"
  instructionLength := 2
  registers := [⟨"BYPASS", 1⟩, ⟨"BSR", 4⟩]
  instructions := [⟨"EXTEST", "00", some "BSR"⟩, ⟨"BYPASS", "11", some "BYPASS"⟩]
  signals := [⟨"A", some "P1"⟩]
  aliases := [⟨"B", "A"⟩, ⟨"C", "B"⟩]
  cells := [⟨3, .output, true, some "A", some ⟨0, false⟩⟩, ⟨2, .bidirectional, false, some "C", none⟩,
    ⟨0, .control, true, none, none⟩]

theorem ofDescription?_accepts_widget : ∃ p, ofDescription? none widget = .ok p ∧ widget.WellFormed ∧ p.Realizes widget ∧
    p.signals = [⟨"A", some "P1", some 2, some 2⟩] := by
  have hsignals : (ofDescription? none widget).map (·.signals) = .ok [⟨"A", some "P1", some 2, some 2⟩] := by decide +kernel
  obtain ⟨haccepted, hrealizes⟩ := ofDescription?_accepts none widget
  cases hp : ofDescription? none widget with
  | error e =>
    rw [hp] at hsignals
    cases hsignals
  | ok p =>
    rw [hp] at hsignals
    exact ⟨p, rfl, haccepted.mp ⟨p, hp⟩, hrealizes p hp, Except.ok.inj hsignals⟩

end Part
end Jtag
