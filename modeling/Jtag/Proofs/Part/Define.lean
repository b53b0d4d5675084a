import Jtag.Chain.Scan
import Jtag.Proofs.Part.Calls

/-! What setting up a part keeps. However much a definition asks for, the part changes in few elementary ways, and
    a property that each of them keeps holds of every part that was set up. Bypass is selected last. -/

namespace Jtag
namespace Part

open Jtag.Action

/-- Every elementary change that adds something to a part keeps the property. -/
structure Growing (P : Part → Prop) : Prop where
  instruction : ∀ p instruction, 0 < p.instructionLength → P p →
    P { p with instructions := p.instructions ++ [instruction] }
  registers : ∀ p registers cells, P p → P { p with registers, cells }
  signals : ∀ p signals aliases, P p → P { p with signals, aliases }
  active : ∀ p active?, P p → P { p with active? }

/-- So does a change of the instruction length where there are no instructions yet. -/
structure Invariant (P : Part → Prop) : Prop extends Growing P where
  length : ∀ p length, (p.instructions ≠ [] → length = p.instructionLength) → P p →
    P { p with instructionLength := length }

variable {P : Part → Prop} {p : Part}

/-- A new register brings cells with it, or has its output set. -/
theorem prepareRegister_eq (p : Part) (name : String) (index length : Nat) :
    ∃ registers cells, p.prepareRegister name index length = { p with registers, cells } ∧
      registers.map (fun r => (r.name, r.input.bits, r.output.length)) =
        p.registers.map fun r => (r.name, r.input.bits, r.output.length) := by
  unfold prepareRegister preloadCode
  split
  · exact ⟨p.registers, _, rfl, rfl⟩
  · split
    · split
      · exact ⟨p.registers, p.cells, rfl, rfl⟩
      · exact ⟨_, p.cells, rfl, map_modify_eq fun r _ => by rw [Register.length_overlay]⟩
    · exact ⟨p.registers, p.cells, rfl, rfl⟩

@[simp] theorem prepareRegister_instructions (p : Part) (name : String) (index length : Nat) :
    (p.prepareRegister name index length).instructions = p.instructions := by
  obtain ⟨_, _, heq, -⟩ := p.prepareRegister_eq name index length
  rw [heq]

@[simp] theorem prepareRegister_instructionLength (p : Part) (name : String) (index length : Nat) :
    (p.prepareRegister name index length).instructionLength = p.instructionLength := by
  obtain ⟨_, _, heq, -⟩ := p.prepareRegister_eq name index length
  rw [heq]

@[simp] theorem prepareRegister_names (p : Part) (name : String) (index length : Nat) :
    (p.prepareRegister name index length).registers.map (·.name) = p.registers.map (·.name) := by
  obtain ⟨_, _, heq, hsame⟩ := p.prepareRegister_eq name index length
  rw [heq]
  exact map_fst_eq hsame

theorem utf8ByteSize_pos {code : String} {opcode : Register} (h : Register.ofText? code = .ok opcode) :
    0 < code.utf8ByteSize := by
  rw [Register.ofText?_eq_ok.mp h, Register.utf8ByteSize_text]
  exact opcode.length_pos

theorem keeps_refuseTaken {α : Type} (found : Except PartError α) (taken : PartError) :
    Always P (refuseTaken found taken) := by
  cases found with
  | ok a => exact keeps_throw taken
  | error e => exact keeps_pure ()

namespace Growing

variable (h : Growing P)
include h

theorem prepareRegister (name : String) (index length : Nat) (hp : P p) : P (p.prepareRegister name index length) := by
  obtain ⟨registers, cells, heq, -⟩ := p.prepareRegister_eq name index length
  rw [heq]
  exact h.registers p registers cells hp

theorem addRegister (name : String) (length : Nat) : Always P (Part.addRegister name length) := by
  refine keeps_bind_get_of fun p hp => Keeps.bind (keeps_refuseTaken _ _) fun _ => ?_
  refine Keeps.bind (keeps_ofExcept _) fun register => Keeps.bind (keeps_set ?_) fun _ => keeps_pure _
  exact h.prepareRegister _ _ _ (h.registers p _ p.cells hp)

theorem addInstruction (name code : String) (register? : Option String) :
    Always P (Part.addInstruction name code register?) := by
  refine keeps_bind_get_of fun p hp => Keeps.bind (keeps_refuseTaken _ _) fun _ => ?_
  by_cases hlength : code.utf8ByteSize = p.instructionLength
  · rw [if_neg (not_not_intro hlength)]
    cases hcode : Register.ofText? code with
    | error e => exact keeps_throw_bind _ _
    | ok opcode =>
      have hpos : 0 < p.instructionLength := hlength ▸ utf8ByteSize_pos hcode
      refine Keeps.bind (keeps_ofExcept _) fun opcode => ?_
      have hadd : ∀ selected, Always P (do
          set { p with instructions := p.instructions ++ [{ Instruction.new name opcode with register? := selected }] }
          return p.instructions.length : PartAction Nat) :=
        fun selected => Keeps.bind (keeps_set (h.instruction p _ hpos hp)) fun _ => keeps_pure _
      cases register? with
      | none => exact hadd none
      | some register => exact Keeps.bind (Keeps.bind (keeps_ofExcept _) fun _ => keeps_pure _) hadd
  · rw [if_pos hlength]
    exact keeps_throw_bind _ _

theorem addSignal (name : String) (pin? : Option String) : Always P (Part.addSignal name pin?) :=
  keeps_bind_get_of fun p hp => Keeps.bind (keeps_refuseTaken _ _) fun _ =>
    Keeps.bind (keeps_set (h.signals p _ p.aliases hp)) fun _ => keeps_pure _

theorem addAlias (other signal : String) : Always P (Part.addAlias other signal) :=
  keeps_bind_get_of fun p hp => Keeps.bind (keeps_refuseTaken _ _) fun _ =>
    Keeps.bind (keeps_ofExcept _) fun _ => keeps_set (h.signals p p.signals _ hp)

theorem setInputBit (index bit : Nat) (value : Bool) : Always P (Part.setInputBit index bit value) := by
  refine keeps_bind_get_of fun p hp => ?_
  split
  · exact keeps_pure _
  · split
    · exact keeps_throw _
    · exact keeps_set (h.registers p _ p.cells hp)

theorem defineCell (bit : Nat) (type : CellType) (safe : Bool) (signal : String) (control? : Option ControlCell) :
    Always P (Part.defineCell bit type safe signal control?) := by
  have hplace : ∀ cell : BoundaryCell, Always P
      (Action.change fun p => { p with cells := p.cells.set bit (some cell) } : PartAction Unit) :=
    fun cell => keeps_change fun p hp => h.registers p p.registers _ hp
  refine keeps_bind_get_of fun p _ => Keeps.bind (keeps_ofExcept _) fun boundary => ?_
  refine Keeps.unless (keeps_throw _) ?_
  cases control?
  case' none => refine Keeps.when (keeps_throw _) ?_
  case' some control => refine Keeps.unless (keeps_throw _) (Keeps.when (keeps_throw _) ?_)
  -- Behind the checks, both place the cell.
  all_goals
    refine Keeps.bind (h.setInputBit _ _ _) fun _ => ?_
    cases (p.signalIndex? signal).toOption with
    | none => exact hplace _
    | some index => exact Keeps.bind (keeps_change fun p hp => h.signals p _ p.aliases hp) fun _ => hplace _

theorem selectInstruction (name : String) : Always P (Part.selectInstruction name) :=
  keeps_bind_get_of fun p hp => Keeps.bind (keeps_set (h.active p _ hp)) fun _ =>
    Keeps.bind (keeps_ofExcept _) fun _ => keeps_pure _

theorem addBypass (length : Nat) : Always P (Chain.addBypass length) :=
  Keeps.bind (keeps_ofExcept _) fun code =>
    Always.mapError (Keeps.bind (h.addInstruction bypass code (some bypass)) fun _ => h.selectInstruction bypass) _

theorem ensureBypass : Always P Chain.ensureBypass := by
  refine keeps_bind_get fun p => Keeps.ite ?_ (Always.mapError (h.selectInstruction _) _)
  exact Keeps.ite (Keeps.bind (Always.mapError (h.addRegister _ _) _) fun _ => h.addBypass _) (h.addBypass _)

end Growing

namespace Invariant

variable (h : Invariant P)
include h

theorem setInstructionLength (length : Nat) : Always P (Part.setInstructionLength length) := by
  refine keeps_bind_get_of fun p hp => ?_
  by_cases hfixed : (!p.instructions.isEmpty && length != p.instructionLength) = true
  · rw [if_pos hfixed]
    exact keeps_throw_bind _ _
  · rw [if_neg hfixed]
    refine keeps_set (h.length p length (fun hne => ?_) hp)
    simpa [hne] using hfixed

theorem define (d : Description) : Always P (Part.define d) := by
  refine Keeps.bind (h.setInstructionLength _) fun _ => ?_
  refine Keeps.bind (keeps_forM fun r _ => Keeps.bind (h.addRegister _ _) fun _ => keeps_pure _) fun _ => ?_
  refine Keeps.bind (keeps_forM fun i _ => Keeps.bind (h.addInstruction _ _ _) fun _ => keeps_pure _) fun _ => ?_
  refine Keeps.bind (keeps_forM fun s _ => Keeps.bind (h.addSignal _ _) fun _ => keeps_pure _) fun _ => ?_
  refine Keeps.bind (keeps_forM fun a _ => h.addAlias _ _) fun _ => ?_
  exact keeps_forM fun c _ => h.defineCell _ _ _ _ _

theorem defineGeneric (hasCode : Bool) (irLength : Nat) : Always P (Chain.defineGeneric hasCode irLength) := by
  have hprepare := Keeps.bind (h.setInstructionLength irLength) fun _ => Keeps.bind (h.addRegister bypass 1) fun _ =>
    keeps_pure PUnit.unit
  refine Keeps.bind (Always.mapError (Keeps.ite ?_ hprepare) _) fun _ => h.addBypass irLength
  exact Keeps.bind (h.addRegister _ _) fun _ => hprepare

end Invariant

theorem selectInstruction_ok_inv {name : String} {p' : Part} (h : (selectInstruction name).runOn p = (.ok (), p')) :
    ∃ index, p.instructionIndex? name = .ok index ∧ p' = { p with active? := some index } := by
  obtain ⟨_, _, hget, hrest⟩ := bind_ok_inv h
  cases hget
  obtain ⟨_, _, hset, hrest⟩ := bind_ok_inv hrest
  cases hset
  obtain ⟨index, _, hfound, hrest⟩ := bind_ok_inv hrest
  cases hrest
  have hindex : p.instructionIndex? name = .ok index := congrArg Prod.fst hfound
  obtain rfl := congrArg Prod.snd hfound
  rw [hindex]
  exact ⟨index, rfl, rfl⟩

theorem exists_of_instructionIndex? {name : String} {index : Nat} (h : p.instructionIndex? name = .ok index) :
    ∃ instruction, p.instructions[index]? = some instruction ∧ instruction.name = name :=
  exists_of_findIdx?_name (instructionIndex?_eq_ok.mp h)

/-- An instruction of that name is active. -/
def Runs (name : String) (p : Part) : Prop := p.activeInstruction?.map (·.name) = some name

end Part

namespace Chain

open Jtag.Action Jtag.Part

variable {P : Part → Prop}

theorem addBypass_ok_inv {length : Nat} {p p' : Part} (h : (addBypass length).runOn p = (.ok (), p')) :
    ∃ t, (selectInstruction bypass).runOn t = (.ok (), p') := by
  obtain ⟨code, _, -, hrest⟩ := bind_ok_inv h
  obtain ⟨_, t, -, hselect⟩ := bind_ok_inv (runOn_mapError_eq_ok.mp hrest)
  exact ⟨t, hselect⟩

/-- Whatever a part lacked, bypass is selected last. -/
theorem ensureBypass_ok_inv {p p' : Part} (h : ensureBypass.runOn p = (.ok (), p')) :
    ∃ t, (selectInstruction bypass).runOn t = (.ok (), p') := by
  obtain ⟨_, _, hget, hrest⟩ := bind_ok_inv h
  cases hget
  split at hrest
  · split at hrest
    · obtain ⟨_, _, -, hadd⟩ := bind_ok_inv hrest
      exact addBypass_ok_inv hadd
    · exact addBypass_ok_inv hrest
  · exact ⟨p, runOn_mapError_eq_ok.mp hrest⟩

/-- What is seen of a definition that was applied: none of its registers is too long, and it was followed in
    full before bypass was added. -/
theorem definedPart?_eq_ok {id : IdCode} {d : Description} {part : Part} : definedPart? id d = .ok part ↔
    overlong? [] d.registers = none ∧
      ∃ p, ofDescription? (some id) d = .ok p ∧ ensureBypass.runOn p = (.ok (), part) := by
  unfold definedPart?
  cases overlong? [] d.registers with
  | some length => simp [bind, Except.bind, throw, throwThe, MonadExceptOf.throw]
  | none =>
    cases hdefine : ofDescription? (some id) d with
    | error e => simp [bind, Except.bind, Except.mapError]
    | ok p =>
      rcases hensure : ensureBypass.runOn p with ⟨e | _, p'⟩ <;>
        simp [bind, Except.bind, Except.mapError, hensure]

/-- A part that is set up from a definition has what a blank part has, and ends with bypass selected. -/
theorem definedPart?_ok_inv {id : IdCode} {d : Description} {part : Part} (h : definedPart? id d = .ok part) :
    (∀ P : Part → Prop, Invariant P → (∀ manufacturer name stepping,
      P { Part.new (some id) with manufacturer, name, stepping }) → P part) ∧
    ∃ t, (selectInstruction bypass).runOn t = (.ok (), part) := by
  obtain ⟨-, p, hdefine, hensure⟩ := definedPart?_eq_ok.mp h
  unfold ofDescription? at hdefine
  rcases hrun : (define d).runOn
    { Part.new (some id) with manufacturer := d.manufacturer, name := d.name, stepping := d.stepping } with ⟨e | _, p'⟩
  · simp only [hrun] at hdefine
    cases hdefine
  · simp only [hrun] at hdefine
    cases hdefine
    refine ⟨fun P hinvariant hblank => ?_, ensureBypass_ok_inv hensure⟩
    have hdefined := (hinvariant.define d).holds (hblank d.manufacturer d.name d.stepping)
    rw [hrun] at hdefined
    have hbypass := hinvariant.ensureBypass.holds hdefined
    rwa [hensure] at hbypass

end Chain
end Jtag
