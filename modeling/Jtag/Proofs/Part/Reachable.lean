import Jtag.Proofs.Part.WellFormed

/-! The parts that come up. A part starts blank or from a description, and calls change it, also where they fail; in
    between its opcodes and the contents of its registers are set from outside. All of these parts are in order as
    long as no register is replaced by one of another length, and then no position in them leads nowhere. -/

namespace Jtag
namespace Part

open Jtag.Action

/-- Replace the opcode of an instruction, if the new one fits. -/
def setOpcode (p : Part) (index : Nat) (opcode : Register) : Part :=
  p.modifyInstruction index fun x => (x.withOpcode? opcode).toOption.getD x

/-- Replace what a data register shifts in and what came out of it. -/
def setContents (p : Part) (index : Nat) (input output : Register) : Part :=
  p.modifyRegister index fun r => { r with input, output }

/-- The parts that come up. The registers of a data register are public: they are replaced by registers of their
    length, or by registers of any length where `replaced` is set. -/
inductive Reachable (replaced : Bool) : Part → Prop where
  | new (id? : Option IdCode) : Reachable replaced (Part.new id?)
  | described {id? : Option IdCode} {d : Description} {p : Part} : ofDescription? id? d = .ok p → Reachable replaced p
  | call {p : Part} (c : Call) : Reachable replaced p → Reachable replaced (c.act.runOn p).2
  | select {p : Part} (name : String) :
      Reachable replaced p → Reachable replaced ((selectInstruction name).runOn p).2
  | opcode {p : Part} (index : Nat) (opcode : Register) :
      Reachable replaced p → Reachable replaced (p.setOpcode index opcode)
  | capture {p : Part} (index : Nat) (bits : List Bool) :
      Reachable replaced p → Reachable replaced (p.modifyInstruction index (·.capture bits))
  | contents {p : Part} (index : Nat) (input output : Register) : Reachable replaced p →
      (replaced = false → ∀ r, p.registers[index]? = some r →
        input.length = r.input.length ∧ output.length = r.output.length) →
      Reachable replaced (p.setContents index input output)
  | labelled {p : Part} (alias? : Option String) (manufacturer name stepping : String) :
      Reachable replaced p → Reachable replaced { p with alias?, manufacturer, name, stepping }

variable {p : Part} {id? : Option IdCode} {replaced : Bool}

/-- The part that a description starts from. -/
def blank (id? : Option IdCode) (d : Description) : Part :=
  { Part.new id? with manufacturer := d.manufacturer, name := d.name, stepping := d.stepping }

theorem ofDescription?_eq_ok {d : Description} :
    ofDescription? id? d = .ok p ↔ (define d).runOn (blank id? d) = (.ok (), p) := by
  unfold ofDescription? blank
  dsimp only
  split
  · simp [*]
  · simp [*]

namespace WellFormed

theorem labelled (h : p.WellFormed) (alias? : Option String) (manufacturer name stepping : String) :
    { p with alias?, manufacturer, name, stepping }.WellFormed where
  __ := h

theorem withLength (h : p.WellFormed) {length : Nat} (hfixed : p.instructions ≠ [] → length = p.instructionLength) :
    { p with instructionLength := length }.WellFormed where
  __ := h
  opcodes x hx := by
    rw [hfixed (List.ne_nil_of_mem hx)]
    exact h.opcodes x hx

theorem setOpcode (h : p.WellFormed) (index : Nat) (opcode : Register) : (p.setOpcode index opcode).WellFormed := by
  refine h.modifyInstruction fun x _ => ?_
  unfold Instruction.withOpcode?
  split
  · exact ⟨rfl, ‹_›, rfl⟩
  · exact ⟨rfl, rfl, rfl⟩

/-! ### The calls -/

theorem setInputBit (index bit : Nat) (value : Bool) : Always WellFormed (Part.setInputBit index bit value) := by
  refine (atomic_setInputBit index bit value).always fun p _ p' h hrun => ?_
  cases hr : p.registers[index]? with
  | none =>
    rw [Part.setInputBit, runOn_bind_ok (runOn_get p), hr] at hrun
    cases hrun
    exact h
  | some r =>
    rw [runOn_setInputBit hr] at hrun
    split at hrun
    · cases hrun
      exact h.loadBit index bit value
    · cases hrun

theorem setSignal (name : String) (direction : Direction) (value : Bool) :
    Always WellFormed (Part.setSignal name direction value) := by
  refine keeps_bind_get fun p => Keeps.bind (keeps_ofExcept _) fun signal => Keeps.bind (keeps_ofExcept _) fun index => ?_
  cases direction with
  | input =>
    refine Keeps.when (keeps_throw _) ?_
    cases p.controlOf? signal with
    | none => exact keeps_pure _
    | some control => exact setInputBit _ _ _
  | output =>
    cases signal.output? with
    | none => exact keeps_throw _
    | some bit =>
      refine Keeps.bind (setInputBit _ _ _) fun _ => ?_
      cases p.controlOf? signal with
      | none => exact keeps_pure _
      | some control => exact setInputBit _ _ _

theorem signalIndex?_lt (h : p.WellFormed) {name : String} {i : Nat} (hi : p.signalIndex? name = .ok i) :
    i < p.signals.length := by
  rcases signalIndex?_eq_ok.mp hi with hfound | ⟨-, other, hother, rfl⟩
  · exact (List.findIdx?_eq_some_iff_getElem.mp hfound).1
  · exact h.aliased other (List.mem_of_find?_eq_some hother)

/-- Every call keeps a part in order. -/
theorem act (c : Call) : Always WellFormed c.act := by
  -- Driving a signal is the call that is not atomic, so it is followed write by write.
  by_cases hset : ∃ name direction value, c = .setSignal name direction value
  · obtain ⟨name, direction, value, rfl⟩ := hset
    exact setSignal name direction value
  have hatomic : Atomic c.act := Call.atomic fun name value heq => hset ⟨name, _, value, heq⟩
  refine hatomic.always fun p _ p' h hrun => ?_
  cases c with
  | setInstructionLength length =>
    obtain ⟨hfixed, rfl⟩ := setInstructionLength_eq_ok.mp hrun
    exact h.withLength hfixed
  | addRegister name length =>
    obtain ⟨i, hadd⟩ := runOn_discard_eq_ok.mp hrun
    obtain ⟨hfree, zeros, hzeros, -, rfl⟩ := addRegister_eq_ok.mp hadd
    have hadded := h.added hfree zeros p.registers.length
    rwa [show zeros.length = length by rw [Register.length, hzeros, List.length_replicate]] at hadded
  | resizeRegister name length =>
    obtain ⟨index, zeros, hindex, -, rfl⟩ := resizeRegister_eq_ok.mp hrun
    exact h.resized hindex zeros
  | addInstruction name code register? =>
    obtain ⟨i, hadd⟩ := runOn_discard_eq_ok.mp hrun
    obtain ⟨hfree, opcode, selected, rfl, hlength, hselected, -, rfl⟩ := addInstruction_eq_ok.mp hadd
    exact h.appendInstruction hfree hlength (selection?_lt hselected)
  | addSignal name pin? =>
    obtain ⟨i, hadd⟩ := runOn_discard_eq_ok.mp hrun
    obtain ⟨hfree, -, rfl⟩ := addSignal_eq_ok.mp hadd
    exact h.appendSignal hfree pin?
  | addAlias other signal =>
    obtain ⟨hfree, i, hi, rfl⟩ := addAlias_eq_ok.mp hrun
    exact h.appendAlias ⟨other, i⟩ hfree (h.signalIndex?_lt hi)
  | defineCell bit type safe signal control? =>
    obtain ⟨index, r, -, -, hbit, hcontrol, hfree, -, rfl⟩ := defineCell_eq_ok.mp hrun
    refine h.withCell ⟨bit, signal, type, _, safe, control?⟩ hfree hbit (fun i hi => ?_) hcontrol index
    cases hsignal : p.signalIndex? signal with
    | error e =>
      rw [hsignal] at hi
      cases hi
    | ok j =>
      rw [hsignal] at hi
      cases hi
      exact h.signalIndex?_lt hsignal
  | setSignal name direction value => exact absurd ⟨name, direction, value, rfl⟩ hset

theorem selectInstruction (name : String) : Always WellFormed (Part.selectInstruction name) := by
  refine keeps_bind_get_of fun p h => Keeps.bind (keeps_set ?_) fun _ => Keeps.bind (keeps_ofExcept _) fun _ => keeps_pure _
  refine { h with active := fun i hi => ?_ }
  cases hfound : p.instructionIndex? name with
  | error e =>
    rw [hfound] at hi
    cases hi
  | ok index =>
    rw [hfound] at hi
    cases hi
    exact (List.findIdx?_eq_some_iff_getElem.mp (instructionIndex?_eq_ok.mp hfound)).1

theorem define (d : Description) : Always WellFormed (Part.define d) := by
  refine Keeps.bind (act (.setInstructionLength d.instructionLength)) fun _ => ?_
  refine Keeps.bind (keeps_forM fun r _ => act (.addRegister r.name r.length)) fun _ => ?_
  refine Keeps.bind (keeps_forM fun x _ => act (.addInstruction x.name x.code x.register?)) fun _ => ?_
  refine Keeps.bind (keeps_forM fun s _ => act (.addSignal s.name s.pin?)) fun _ => ?_
  refine Keeps.bind (keeps_forM fun a _ => act (.addAlias a.name a.signal)) fun _ => ?_
  exact keeps_forM fun c _ => act (.defineCell c.bit c.type c.safe (c.signal?.getD "") c.control?)

theorem ofDescription? {d : Description} (h : Part.ofDescription? id? d = .ok p) : p.WellFormed := by
  have hblank : (blank id? d).WellFormed := (new id?).labelled none d.manufacturer d.name d.stepping
  have hdefined := (define d).holds hblank
  rwa [ofDescription?_eq_ok.mp h] at hdefined

end WellFormed

/-- Make calls one after the other, whether they fail or not. -/
def after (p : Part) (calls : List Call) : Part := calls.foldl (fun p c => (c.act.runOn p).2) p

namespace Reachable

theorem after (h : Reachable replaced p) (calls : List Call) : Reachable replaced (p.after calls) := by
  induction calls generalizing p with
  | nil => exact h
  | cons c calls ih => exact ih (h.call c)

/-- A part that comes up without another length of its registers is in order. -/
theorem wellFormed (h : Reachable false p) : p.WellFormed := by
  induction h with
  | new id? => exact .new id?
  | described hset => exact .ofDescription? hset
  | call c _ ih => exact (WellFormed.act c).holds ih
  | select name _ ih => exact (WellFormed.selectInstruction name).holds ih
  | opcode index opcode _ ih => exact ih.setOpcode index opcode
  | capture index bits _ ih => exact ih.modifyInstruction fun x _ => ⟨rfl, rfl, rfl⟩
  | contents index input output _ hlengths ih =>
    exact ih.modifyRegister fun r hr => ⟨rfl, fun _ => (hlengths rfl r hr).1⟩
  | labelled alias? manufacturer name stepping _ ih => exact ih.labelled alias? manufacturer name stepping

end Reachable

/-- No position leads nowhere: what is active, what an instruction selects, and what a name or a cell stands for is
    there. -/
structure Resolves (p : Part) : Prop where
  instruction : ∀ i ∈ p.active?, ∃ x, p.activeInstruction? = some x
  register : ∀ i ∈ p.activeRegisterIndex?, ∃ r, p.activeRegister? = some r
  selected : ∀ x ∈ p.instructions, ∀ i ∈ x.register?, ∃ r, p.registers[i]? = some r
  signal : ∀ name i, p.signalIndex? name = .ok i → ∃ s, p.signal? name = .ok s
  owner : ∀ bit cell, p.cell? bit = some cell → ∀ i ∈ cell.signal?, ∃ s, p.signals[i]? = some s

theorem WellFormed.resolves (h : p.WellFormed) : p.Resolves := by
  have hselected : ∀ x ∈ p.instructions, ∀ i ∈ x.register?, ∃ r, p.registers[i]? = some r :=
    fun x hx i hi => ⟨_, List.getElem?_eq_getElem (h.selected x hx i hi)⟩
  refine ⟨fun i hi => ?_, fun i hi => ?_, hselected, fun name i hi => ?_, fun bit cell hcell i hi => ?_⟩
  · rw [activeInstruction?, hi]
    exact ⟨_, List.getElem?_eq_getElem (h.active i hi)⟩
  · rw [activeRegister?, hi]
    obtain ⟨x, hx, hregister⟩ := Option.bind_eq_some_iff.mp hi
    obtain ⟨k, -, hk⟩ := Option.bind_eq_some_iff.mp hx
    exact hselected x (List.mem_of_getElem? hk) i hregister
  · exact ⟨_, signal?_eq_ok.mpr ⟨i, hi, List.getElem?_eq_getElem (h.signalIndex?_lt hi)⟩⟩
  · exact ⟨_, List.getElem?_eq_getElem ((h.cells bit cell hcell).2.1 i hi)⟩

/-- Whatever is asked of a part, it stays in order, and no lookup in it fails. -/
theorem Reachable.inOrder (h : Reachable false p) : p.WellFormed ∧ p.Resolves := ⟨h.wellFormed, h.wellFormed.resolves⟩

/-- A part with a pin that has two names, after a cell that is defined twice. -/
theorem inOrder_small : ∃ p : Part, p = (Part.new none).after
    [.setInstructionLength 2, .addRegister "BSR" 2, .addInstruction "EXTEST" "00" (some "BSR"), .addSignal "A" none,
      .addAlias "B" "A", .defineCell 0 .output true "B" (some ⟨1, true⟩), .defineCell 0 .input true "A" none] ∧
    p.signals = [⟨"A", none, none, some 0⟩] ∧ p.WellFormed ∧ p.Resolves :=
  ⟨_, rfl, by decide, Reachable.inOrder ((Reachable.new none).after _)⟩

end Part
end Jtag
