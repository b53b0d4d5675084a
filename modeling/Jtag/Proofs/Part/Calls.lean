import Mathlib.Data.List.Nodup
import Jtag.Part.Description
import Jtag.Proofs.Action.Atomic
import Jtag.Proofs.Register.Spelled

/-! What the calls that define and drive a part do. A call looks up and checks all that it depends on before it
    writes, and one that succeeds changes the part in one way. Only the call that drives a signal writes twice, and
    the second of its writes is checked behind the first one. -/

namespace Jtag

section Names
variable {α : Type} {key : α → String} {l : List α} {name : String} {i : Nat}

theorem findIdx?_name_eq_none : l.findIdx? (key · == name) = none ↔ name ∉ l.map key := by
  simp only [List.findIdx?_eq_none_iff, List.mem_map, not_exists, not_and, beq_eq_false_iff_ne, ne_eq]

theorem exists_of_findIdx?_name (h : l.findIdx? (key · == name) = some i) : ∃ a, l[i]? = some a ∧ key a = name := by
  obtain ⟨hlt, hname, -⟩ := List.findIdx?_eq_some_iff_getElem.mp h
  exact ⟨l[i], List.getElem?_eq_getElem hlt, beq_iff_eq.mp hname⟩

/-- A name that is there once is found where it is. -/
theorem findIdx?_name_eq_some (hnames : (l.map key).Nodup) :
    l.findIdx? (key · == name) = some i ↔ ∃ a, l[i]? = some a ∧ key a = name := by
  refine ⟨exists_of_findIdx?_name, fun ⟨a, ha, hname⟩ => ?_⟩
  obtain ⟨j, hj⟩ : ∃ j, l.findIdx? (key · == name) = some j := by
    refine Option.ne_none_iff_exists'.mp fun hnone => findIdx?_name_eq_none.mp hnone ?_
    exact hname ▸ List.mem_map_of_mem (List.mem_of_getElem? ha)
  obtain ⟨b, hb, hname'⟩ := exists_of_findIdx?_name hj
  have hi : (l.map key)[i]? = some name := by rw [List.getElem?_map, ha, Option.map_some, hname]
  have hj' : (l.map key)[j]? = some name := by rw [List.getElem?_map, hb, Option.map_some, hname']
  rw [hj, (List.getElem?_inj (List.getElem?_eq_some_iff.mp hj').1 hnames).mp (hj'.trans hi.symm)]

theorem nodup_map_append {β : Type} {g : α → β} {a : α} :
    ((l ++ [a]).map g).Nodup ↔ (l.map g).Nodup ∧ g a ∉ l.map g := by
  rw [List.map_append, List.map_singleton, ← List.concat_eq_append, List.nodup_concat, and_comm]

theorem forall_mem_append_singleton {P : α → Prop} {a : α} : (∀ b ∈ l ++ [a], P b) ↔ (∀ b ∈ l, P b) ∧ P a := by
  rw [List.forall_mem_append, List.forall_mem_singleton]

theorem map_modify_eq {β : Type} {g : α → β} {f : α → α} (hf : ∀ a, l[i]? = some a → g (f a) = g a) :
    (l.modify i f).map g = l.map g := by
  refine List.ext_getElem? fun k => ?_
  rw [List.getElem?_map, List.getElem?_map, List.getElem?_modify]
  rcases eq_or_ne i k with rfl | hne
  · cases ha : l[i]? with
    | none => rfl
    | some a => simp [hf a ha]
  · simp [hne]

theorem map_fst_eq {β γ δ : Type} {m : List δ} {f : α → β} {f' : α → γ} {g : δ → β} {g' : δ → γ}
    (h : l.map (fun a => (f a, f' a)) = m.map fun b => (g b, g' b)) : l.map f = m.map g := by
  simpa only [List.map_map, Function.comp_def] using congrArg (List.map Prod.fst) h

theorem modify_congr {f g : α → α} (hf : ∀ a, l[i]? = some a → f a = g a) : l.modify i f = l.modify i g := by
  refine List.ext_getElem? fun k => ?_
  rw [List.getElem?_modify, List.getElem?_modify]
  rcases eq_or_ne i k with rfl | hne
  · cases ha : l[i]? with
    | none => rfl
    | some a => simp [hf a ha]
  · simp [hne]

end Names

theorem mapError_eq_ok {α ε ε' : Type} {x : Except ε α} {f : ε → ε'} {a : α} : x.mapError f = .ok a ↔ x = .ok a := by
  cases x <;> simp [Except.mapError]

namespace Register

theorem length_set (r : Register) (bit : Nat) (value : Bool) : (r.bits.set bit value).length = r.bits.length :=
  List.length_set

/-- Set a bit, if the register has it. -/
def write (r : Register) (bit : Nat) (value : Bool) : Register :=
  r.withBits (r.bits.set bit value) (r.length_set bit value)

@[simp] theorem length_write (r : Register) (bit : Nat) (value : Bool) : (r.write bit value).length = r.length :=
  length_withBits ..

theorem set?_eq (r : Register) (bit : Nat) (value : Bool) :
    r.set? bit value = if bit < r.length then some (r.write bit value) else none := rfl

theorem get?_write {r : Register} {bit : Nat} (h : bit < r.length) (value : Bool) (k : Nat) :
    (r.write bit value).get? k = if k = bit then some value else r.get? k := by
  have hbits : bit < r.bits.length := h
  show (r.bits.set bit value)[k]? = if k = bit then some value else r.bits[k]?
  rw [List.getElem?_set]
  rcases eq_or_ne bit k with rfl | hk
  · rw [if_pos rfl, if_pos rfl, if_pos hbits]
  · rw [if_neg hk, if_neg hk.symm]

end Register

/-- What a control cell holds while its signal is used in a direction. -/
def ControlCell.level (control : ControlCell) : Direction → Bool
  | .input => control.disableValue
  | .output => !control.disableValue

/-- The cell that a signal is used through in a direction. -/
def Signal.bit? (signal : Signal) : Direction → Option Nat
  | .input => signal.input?
  | .output => signal.output?

namespace Part

open Jtag.Action

variable {p p' : Part} {name : String} {i index bit : Nat} {value : Bool}

/-! ### Looking up -/

/-- The names that a signal can be asked for by. -/
def signalNames (p : Part) : List String := p.signals.map (·.name) ++ p.aliases.map (·.name)

theorem instructionIndex?_eq_ok :
    p.instructionIndex? name = .ok i ↔ p.instructions.findIdx? (·.name == name) = some i := by
  unfold instructionIndex?
  cases p.instructions.findIdx? (·.name == name) <;> simp

theorem registerIndex?_eq_ok : p.registerIndex? name = .ok i ↔ p.registers.findIdx? (·.name == name) = some i := by
  unfold registerIndex?
  cases p.registers.findIdx? (·.name == name) <;> simp

theorem instructionIndex?_ne_ok : (∀ i, p.instructionIndex? name ≠ .ok i) ↔ name ∉ p.instructions.map (·.name) := by
  simp only [ne_eq, instructionIndex?_eq_ok, ← Option.eq_none_iff_forall_ne_some, findIdx?_name_eq_none]

theorem registerIndex?_ne_ok : (∀ i, p.registerIndex? name ≠ .ok i) ↔ name ∉ p.registers.map (·.name) := by
  simp only [ne_eq, registerIndex?_eq_ok, ← Option.eq_none_iff_forall_ne_some, findIdx?_name_eq_none]

theorem exists_registerIndex?_iff : (∃ i, p.registerIndex? name = .ok i) ↔ name ∈ p.registers.map (·.name) := by
  rw [← not_iff_not, ← registerIndex?_ne_ok, not_exists]

/-- A name is a signal's own before it is another name of one. -/
theorem signalIndex?_eq_ok : p.signalIndex? name = .ok i ↔
    p.signals.findIdx? (·.name == name) = some i ∨
      name ∉ p.signals.map (·.name) ∧ ∃ other, p.aliases.find? (·.name == name) = some other ∧ other.signal = i := by
  rw [← findIdx?_name_eq_none]
  unfold signalIndex?
  cases p.signals.findIdx? (·.name == name) with
  | some j => simp
  | none => cases p.aliases.find? (·.name == name) <;> simp

theorem signalIndex?_ne_ok : (∀ i, p.signalIndex? name ≠ .ok i) ↔ name ∉ p.signalNames := by
  rw [signalNames, List.mem_append, not_or, ← findIdx?_name_eq_none (l := p.signals)]
  unfold signalIndex?
  cases p.signals.findIdx? (·.name == name) with
  | some j => simp
  | none =>
    cases hother : p.aliases.find? (·.name == name) with
    | none =>
      simp only [List.find?_eq_none, beq_iff_eq] at hother
      simpa using hother
    | some other =>
      have hname : other.name = name := by simpa using List.find?_some hother
      simpa using ⟨other, List.mem_of_find?_eq_some hother, hname⟩

theorem exists_signalIndex?_iff : (∃ i, p.signalIndex? name = .ok i) ↔ name ∈ p.signalNames := by
  rw [← not_iff_not, ← signalIndex?_ne_ok, not_exists]

theorem boundaryIndex?_eq_ok : p.boundaryIndex? = .ok i ↔ p.registerIndex? bsr = .ok i := mapError_eq_ok

/-- A register that is found is there. -/
theorem exists_of_registerIndex? (h : p.registerIndex? name = .ok i) :
    ∃ r, p.registers[i]? = some r ∧ r.name = name := exists_of_findIdx?_name (registerIndex?_eq_ok.mp h)

theorem registerIndex?_lt (h : p.registerIndex? name = .ok i) : i < p.registers.length := by
  obtain ⟨r, hr, -⟩ := exists_of_registerIndex? h
  exact (List.getElem?_eq_some_iff.mp hr).1

theorem exists_of_boundaryIndex? (h : p.boundaryIndex? = .ok i) : ∃ r, p.registers[i]? = some r ∧ r.name = bsr :=
  exists_of_registerIndex? (boundaryIndex?_eq_ok.mp h)

theorem signal?_eq_ok {signal : Signal} :
    p.signal? name = .ok signal ↔ ∃ i, p.signalIndex? name = .ok i ∧ p.signals[i]? = some signal := by
  unfold signal?
  cases p.signalIndex? name with
  | error e => simp [bind, Except.bind]
  | ok i => cases hsignal : p.signals[i]? <;> simp [bind, Except.bind, hsignal]

/-! ### Writing a bit of what is shifted in -/

/-- Set a bit of what the register at a position shifts in. -/
def loadBit (p : Part) (index bit : Nat) (value : Bool) : Part :=
  p.modifyRegister index fun r => { r with input := r.input.write bit value }

theorem getElem?_loadBit {r : DataRegister} (h : p.registers[index]? = some r) (bit : Nat) (value : Bool) :
    (p.loadBit index bit value).registers[index]? = some { r with input := r.input.write bit value } := by
  simp [loadBit, modifyRegister, h]

/-- The write is checked against the register that is there. -/
theorem runOn_setInputBit {r : DataRegister} (h : p.registers[index]? = some r) (bit : Nat) (value : Bool) :
    (setInputBit index bit value).runOn p =
      if bit < r.input.length then (.ok (), p.loadBit index bit value)
      else (.error (.bitOutOfRange bit r.input.length), p) := by
  rw [setInputBit, runOn_bind_ok (runOn_get p), h]
  by_cases hbit : bit < r.input.length
  · simp only [Register.set?_eq, if_pos hbit, runOn_set]
    refine congrArg (Prod.mk _) ?_
    unfold loadBit modifyRegister
    rw [modify_congr fun a ha => ?_]
    rw [Option.some.inj (h.symm.trans ha)]
  · simp only [Register.set?_eq, if_neg hbit, runOn_throw]

theorem atomic_setInputBit (index bit : Nat) (value : Bool) : Atomic (setInputBit index bit value) := by
  refine looks_get.bind fun p => ?_
  split
  · exact (looks_pure _).atomic
  · split
    · exact (looks_throw _).atomic
    · exact (succeeds_set _).atomic

/-! ### Calls that define -/

theorem looks_refuseTaken {α : Type} (found : Except PartError α) (taken : PartError) :
    Looks (refuseTaken found taken) := by
  cases found with
  | ok a => exact looks_throw taken
  | error e => exact looks_pure ()

theorem refuseTaken_eq_ok {α : Type} {found : Except PartError α} {taken : PartError} {u : Unit} :
    (refuseTaken found taken).runOn p = (.ok u, p') ↔ (∀ a, found ≠ .ok a) ∧ p = p' := by
  cases found <;> simp [refuseTaken]

theorem setInstructionLength_eq_ok {length : Nat} :
    (setInstructionLength length).runOn p = (.ok (), p') ↔
      (p.instructions ≠ [] → length = p.instructionLength) ∧ p' = { p with instructionLength := length } := by
  rw [setInstructionLength, runOn_bind_ok (runOn_get p), runOn_throwing_eq_ok]
  simp [eq_comm (b := p')]

theorem atomic_setInstructionLength (length : Nat) : Atomic (setInstructionLength length) :=
  looks_get.bind fun _ => Atomic.ite (atomic_throw_bind _ _) (succeeds_set _).atomic

/-- A data register of cleared bits. -/
def cleared (name : String) (zeros : Register) : DataRegister := ⟨name, zeros, zeros⟩

theorem new?_eq_ok {length : Nat} {r : DataRegister} :
    (DataRegister.new? name length).mapError PartError.register = .ok r ↔
      ∃ zeros, zeros.bits = List.replicate length false ∧ r = cleared name zeros := by
  simp only [mapError_eq_ok, ← Register.zeros?_eq_ok, DataRegister.new?, cleared]
  cases Register.zeros? length <;> simp [bind, Except.bind, pure, Except.pure, eq_comm (a := r)]

theorem addRegister_eq_ok {length : Nat} :
    (addRegister name length).runOn p = (.ok i, p') ↔
      name ∉ p.registers.map (·.name) ∧ ∃ zeros, zeros.bits = List.replicate length false ∧ i = p.registers.length ∧
        p' = { p with registers := p.registers ++ [cleared name zeros] }.prepareRegister name p.registers.length length := by
  rw [addRegister, runOn_bind_ok (runOn_get p)]
  simp only [runOn_bind_eq_ok, refuseTaken_eq_ok, registerIndex?_ne_ok, runOn_ofExcept_eq_ok, new?_eq_ok, runOn_set,
    runOn_pure, Prod.mk.injEq, Except.ok.injEq]
  constructor
  · rintro ⟨_, _, ⟨hfree, rfl⟩, _, _, ⟨⟨zeros, hzeros, rfl⟩, rfl⟩, _, _, ⟨-, rfl⟩, rfl, rfl⟩
    exact ⟨hfree, zeros, hzeros, rfl, rfl⟩
  · rintro ⟨hfree, zeros, hzeros, rfl, rfl⟩
    exact ⟨(), p, ⟨hfree, rfl⟩, _, p, ⟨⟨zeros, hzeros, rfl⟩, rfl⟩, ⟨⟩, _, ⟨trivial, rfl⟩, rfl, rfl⟩

/-- A free name and at least one bit are all that a new data register takes. -/
theorem addRegister_ok {length : Nat} (hfree : name ∉ p.registers.map (·.name)) (hlength : 0 < length) :
    ∃ register, register.name = name ∧ (addRegister name length).runOn p = (.ok p.registers.length,
      { p with registers := p.registers ++ [register] }.prepareRegister name p.registers.length length) := by
  have hne : List.replicate length false ≠ [] := List.ne_nil_of_length_pos (by rwa [List.length_replicate])
  exact ⟨cleared name ⟨_, hne⟩, rfl, addRegister_eq_ok.mpr ⟨hfree, ⟨_, hne⟩, rfl, rfl, rfl⟩⟩

theorem atomic_addRegister (name : String) (length : Nat) : Atomic (addRegister name length) :=
  looks_get.bind fun _ => (looks_refuseTaken _ _).bind fun _ => (looks_ofExcept _).bind fun _ =>
    ((succeeds_set _).bind fun _ => succeeds_pure _).atomic

/-- What resizing makes of the part: a register of other bits, and no ties to the cells of the old one. -/
def resized (p : Part) (name : String) (index : Nat) (zeros : Register) : Part :=
  let p := p.modifyRegister index fun r => { r with input := zeros, output := zeros }
  (if name = bsr then p.unmapSignals else p).prepareRegister name index zeros.length

theorem resizeRegister_eq_ok {length : Nat} :
    (resizeRegister name length).runOn p = (.ok (), p') ↔
      ∃ index zeros, p.registerIndex? name = .ok index ∧ zeros.bits = List.replicate length false ∧
        p' = p.resized name index zeros := by
  rw [resizeRegister, runOn_bind_ok (runOn_get p)]
  simp only [runOn_bind_eq_ok, runOn_ofExcept_eq_ok, new?_eq_ok]
  constructor
  · rintro ⟨index, t, ⟨hindex, rfl⟩, r, t, ⟨⟨zeros, hzeros, rfl⟩, rfl⟩, h⟩
    cases h
    refine ⟨index, zeros, hindex, hzeros, ?_⟩
    rw [resized, show zeros.length = length by rw [Register.length, hzeros, List.length_replicate]]
    rfl
  · rintro ⟨index, zeros, hindex, hzeros, rfl⟩
    refine ⟨index, p, ⟨hindex, rfl⟩, _, p, ⟨⟨zeros, hzeros, rfl⟩, rfl⟩, ?_⟩
    rw [resized, show zeros.length = length by rw [Register.length, hzeros, List.length_replicate]]
    rfl

theorem atomic_resizeRegister (name : String) (length : Nat) : Atomic (resizeRegister name length) :=
  looks_get.bind fun _ => (looks_ofExcept _).bind fun _ => (looks_ofExcept _).bind fun _ => (succeeds_set _).atomic

/-- The instruction that a name and an opcode make, with the position of its register. -/
def selecting (name : String) (opcode : Register) (selected : Option Nat) : Instruction :=
  { Instruction.new name opcode with register? := selected }

theorem looks_some_ofExcept (answer : Except PartError Nat) :
    Looks (some <$> Action.ofExcept answer : PartAction (Option Nat)) := by
  intro p
  cases answer <;> rfl

/-- The position of the register that an instruction asks for, if it asks for one. -/
def selection? (p : Part) : Option String → Except PartError (Option Nat)
  | none => .ok none
  | some register => (p.registerIndex? register).map some

theorem selection?_lt {register? : Option String} {selected : Option Nat}
    (h : p.selection? register? = .ok selected) : ∀ i ∈ selected, i < p.registers.length := by
  intro i hi
  cases register? with
  | none =>
    cases h
    cases hi
  | some register =>
    cases hindex : p.registerIndex? register with
    | error e =>
      rw [selection?, hindex] at h
      cases h
    | ok index =>
      rw [selection?, hindex] at h
      cases h
      exact Option.mem_some.mp hi ▸ registerIndex?_lt hindex

theorem addInstruction_eq_ok {code : String} {register? : Option String} :
    (addInstruction name code register?).runOn p = (.ok i, p') ↔
      name ∉ p.instructions.map (·.name) ∧ ∃ opcode selected, code = opcode.text ∧ opcode.length = p.instructionLength ∧
        p.selection? register? = .ok selected ∧ i = p.instructions.length ∧
        p' = { p with instructions := p.instructions ++ [selecting name opcode selected] } := by
  rw [addInstruction, runOn_bind_ok (runOn_get p)]
  simp only [runOn_bind_eq_ok, refuseTaken_eq_ok, instructionIndex?_ne_ok, runOn_throwing_eq_ok, runOn_ofExcept_eq_ok,
    mapError_eq_ok, Register.ofText?_eq_ok]
  have hadd : ∀ (opcode : Register) {selected? : PartAction (Option Nat)} {found : Except PartError (Option Nat)},
      selected?.runOn p = (found, p) → ((do
        let selected ← selected?
        set { p with instructions := p.instructions ++ [selecting name opcode selected] }
        return p.instructions.length : PartAction Nat).runOn p = (.ok i, p') ↔
      ∃ selected, found = .ok selected ∧ i = p.instructions.length ∧
        p' = { p with instructions := p.instructions ++ [selecting name opcode selected] }) := by
    intro opcode selected? found hfound
    simp only [runOn_bind_eq_ok, hfound, runOn_set, runOn_pure, Prod.mk.injEq, Except.ok.injEq]
    constructor
    · rintro ⟨selected, _, ⟨rfl, rfl⟩, _, _, ⟨-, rfl⟩, rfl, rfl⟩
      exact ⟨selected, rfl, rfl, rfl⟩
    · rintro ⟨selected, rfl, rfl, rfl⟩
      exact ⟨selected, p, ⟨rfl, rfl⟩, ⟨⟩, _, ⟨trivial, rfl⟩, rfl, rfl⟩
  have hfind : ∀ register, (some <$> Action.ofExcept (p.registerIndex? register) : PartAction (Option Nat)).runOn p =
      (p.selection? (some register), p) := by
    intro register
    rw [selection?]
    cases p.registerIndex? register <;> rfl
  constructor
  · rintro ⟨_, _, ⟨hfree, rfl⟩, hlength, opcode, _, ⟨rfl, rfl⟩, h⟩
    rw [Register.utf8ByteSize_text, ne_eq, Decidable.not_not] at hlength
    refine ⟨hfree, opcode, ?_⟩
    cases register? with
    | none =>
      obtain ⟨selected, hselected, heq⟩ := (hadd opcode rfl).mp h
      exact ⟨selected, rfl, hlength, hselected, heq⟩
    | some register =>
      obtain ⟨selected, hselected, heq⟩ := (hadd opcode (hfind register)).mp h
      exact ⟨selected, rfl, hlength, hselected, heq⟩
  · rintro ⟨hfree, opcode, selected, rfl, hlength, hselected, heq⟩
    rw [Register.utf8ByteSize_text]
    refine ⟨(), p, ⟨hfree, rfl⟩, not_not_intro hlength, opcode, p, ⟨rfl, rfl⟩, ?_⟩
    cases register? with
    | none => exact (hadd opcode rfl).mpr ⟨selected, hselected, heq⟩
    | some register => exact (hadd opcode (hfind register)).mpr ⟨selected, hselected, heq⟩

theorem atomic_addInstruction (name code : String) (register? : Option String) :
    Atomic (addInstruction name code register?) := by
  refine looks_get.bind fun p => (looks_refuseTaken _ _).bind fun _ => Atomic.ite (atomic_throw_bind _ _) ?_
  refine (looks_ofExcept _).bind fun opcode => ?_
  have hadd : ∀ selected, Atomic (do
      set { p with instructions := p.instructions ++ [selecting name opcode selected] }
      return p.instructions.length : PartAction Nat) :=
    fun _ => ((succeeds_set _).bind fun _ => succeeds_pure _).atomic
  cases register? with
  | none => exact hadd none
  | some register => exact (looks_some_ofExcept _).bind hadd

theorem addSignal_eq_ok {pin? : Option String} :
    (addSignal name pin?).runOn p = (.ok i, p') ↔
      name ∉ p.signalNames ∧ i = p.signals.length ∧ p' = { p with signals := p.signals ++ [Signal.new name pin?] } := by
  rw [addSignal, runOn_bind_ok (runOn_get p)]
  simp only [runOn_bind_eq_ok, refuseTaken_eq_ok, signalIndex?_ne_ok, runOn_set, runOn_pure, Prod.mk.injEq,
    Except.ok.injEq]
  constructor
  · rintro ⟨_, _, ⟨hfree, rfl⟩, _, _, ⟨-, rfl⟩, rfl, rfl⟩
    exact ⟨hfree, rfl, rfl⟩
  · rintro ⟨hfree, rfl, rfl⟩
    exact ⟨(), p, ⟨hfree, rfl⟩, ⟨⟩, _, ⟨trivial, rfl⟩, rfl, rfl⟩

theorem atomic_addSignal (name : String) (pin? : Option String) : Atomic (addSignal name pin?) :=
  looks_get.bind fun _ => (looks_refuseTaken _ _).bind fun _ => ((succeeds_set _).bind fun _ => succeeds_pure _).atomic

theorem addAlias_eq_ok {signal : String} :
    (addAlias name signal).runOn p = (.ok (), p') ↔
      name ∉ p.signalNames ∧ ∃ i, p.signalIndex? signal = .ok i ∧ p' = { p with aliases := p.aliases ++ [⟨name, i⟩] } := by
  rw [addAlias, runOn_bind_ok (runOn_get p)]
  simp only [runOn_bind_eq_ok, refuseTaken_eq_ok, signalIndex?_ne_ok, runOn_ofExcept_eq_ok, runOn_set, Prod.mk.injEq]
  constructor
  · rintro ⟨_, _, ⟨hfree, rfl⟩, i, _, ⟨hi, rfl⟩, -, rfl⟩
    exact ⟨hfree, i, hi, rfl⟩
  · rintro ⟨hfree, i, hi, rfl⟩
    exact ⟨(), p, ⟨hfree, rfl⟩, i, p, ⟨hi, rfl⟩, trivial, rfl⟩

theorem atomic_addAlias (name signal : String) : Atomic (addAlias name signal) :=
  looks_get.bind fun _ => (looks_refuseTaken _ _).bind fun _ => (looks_ofExcept _).bind fun _ => (succeeds_set _).atomic

/-- What a new cell makes of the part: its bit is loaded, and its signal is tied to it. -/
def withCell (p : Part) (index : Nat) (cell : BoundaryCell) : Part :=
  let p := p.loadBit index cell.bit cell.safe
  let p := match cell.signal? with
    | none => p
    | some signal => p.mapSignal signal cell.bit cell.type
  { p with cells := p.cells.set cell.bit (some cell) }

/-- The writes of a cell's definition, behind its checks. -/
def placeCell (index : Nat) (cell : BoundaryCell) : PartAction Unit := do
  setInputBit index cell.bit cell.safe
  if let some signal := cell.signal? then
    Action.change fun p => p.mapSignal signal cell.bit cell.type
  Action.change fun p => { p with cells := p.cells.set cell.bit (some cell) }

theorem runOn_placeCell {r : DataRegister} (h : p.registers[index]? = some r) (cell : BoundaryCell) :
    (placeCell index cell).runOn p =
      if cell.bit < r.input.length then (.ok (), p.withCell index cell)
      else (.error (.bitOutOfRange cell.bit r.input.length), p) := by
  have hset := runOn_setInputBit h cell.bit cell.safe
  split
  · rw [if_pos ‹_›] at hset
    rw [placeCell, runOn_bind_ok hset, withCell]
    cases cell.signal? <;> rfl
  · rw [if_neg ‹_›] at hset
    rw [placeCell, runOn_bind_error hset]

theorem atomic_placeCell (index : Nat) (cell : BoundaryCell) : Atomic (placeCell index cell) := by
  refine (atomic_setInputBit _ _ _).bind fun _ => ?_
  cases cell.signal? with
  | none => exact succeeds_change _
  | some signal => exact (succeeds_change _).bind fun _ => succeeds_change _

theorem defineCell_eq_ok {type : CellType} {signal : String} {control? : Option ControlCell} :
    (defineCell bit type value signal control?).runOn p = (.ok (), p') ↔
      ∃ index r, p.boundaryIndex? = .ok index ∧ p.registers[index]? = some r ∧ bit < p.boundaryLength ∧
        (∀ control ∈ control?, control.bit < p.boundaryLength) ∧ p.cell? bit = none ∧ bit < r.input.length ∧
        p' = p.withCell index ⟨bit, signal, type, (p.signalIndex? signal).toOption, value, control?⟩ := by
  have hplaced : ∀ {index r}, p.registers[index]? = some r → ∀ cell, (placeCell index cell).runOn p = (.ok (), p') ↔
      cell.bit < r.input.length ∧ p' = p.withCell index cell := by
    intro index r hr cell
    rw [runOn_placeCell hr]
    split <;> simp [*, eq_comm]
  rw [defineCell, runOn_bind_ok (runOn_get p), runOn_bind_eq_ok]
  constructor
  · rintro ⟨index, _, hfound, h⟩
    obtain ⟨hindex, rfl⟩ := runOn_ofExcept_eq_ok.mp hfound
    obtain ⟨r, hr, -⟩ := exists_of_boundaryIndex? hindex
    obtain ⟨hbit, h⟩ := runOn_requiring_eq_ok.mp h
    obtain ⟨hcontrol, hnone, hplace⟩ : (∀ control ∈ control?, control.bit < p.boundaryLength) ∧
        ¬(p.cell? bit).isSome = true ∧ (placeCell index
          ⟨bit, signal, type, (p.signalIndex? signal).toOption, value, control?⟩).runOn p = (.ok (), p') := by
      cases control? with
      | none => exact ⟨nofun, runOn_throwing_eq_ok.mp h⟩
      | some control =>
        obtain ⟨hlt, h⟩ := runOn_requiring_eq_ok.mp h
        exact ⟨fun _ hmem => Option.mem_some.mp hmem ▸ hlt, runOn_throwing_eq_ok.mp h⟩
    obtain ⟨hlength, heq⟩ := (hplaced hr _).mp hplace
    exact ⟨index, r, hindex, hr, hbit, hcontrol, by simpa using hnone, hlength, heq⟩
  · rintro ⟨index, r, hindex, hr, hbit, hcontrol, hfree, hlength, heq⟩
    have hplace := (hplaced hr ⟨bit, signal, type, (p.signalIndex? signal).toOption, value, control?⟩).mpr ⟨hlength, heq⟩
    refine ⟨index, p, runOn_ofExcept_eq_ok.mpr ⟨hindex, rfl⟩, runOn_requiring_eq_ok.mpr ⟨hbit, ?_⟩⟩
    have hnone : ¬(p.cell? bit).isSome = true := by simp [hfree]
    cases control? with
    | none => exact runOn_throwing_eq_ok.mpr ⟨hnone, hplace⟩
    | some control => exact runOn_requiring_eq_ok.mpr ⟨hcontrol _ rfl, runOn_throwing_eq_ok.mpr ⟨hnone, hplace⟩⟩

theorem atomic_defineCell (type : CellType) (signal : String) (control? : Option ControlCell) :
    Atomic (defineCell bit type value signal control?) := by
  refine looks_get.bind fun p => (looks_ofExcept _).bind fun index => Atomic.ite ?_ (atomic_throw_bind _ _)
  have hplace := atomic_placeCell index ⟨bit, signal, type, (p.signalIndex? signal).toOption, value, control?⟩
  cases control? with
  | none => exact Atomic.ite (atomic_throw_bind _ _) hplace
  | some control => exact Atomic.ite (Atomic.ite (atomic_throw_bind _ _) hplace) (atomic_throw_bind _ _)

/-! ### The call that drives a signal -/

/-- A name reaches a signal, and the boundary scan register is there. -/
structure Reaches (p : Part) (name : String) (signal : Signal) (index : Nat) (r : DataRegister) : Prop where
  signal : p.signal? name = .ok signal
  boundary : p.boundaryIndex? = .ok index
  register : p.registers[index]? = some r

theorem setSignal_cases (p : Part) (name : String) (direction : Direction) (value : Bool) :
    (∃ e, (setSignal name direction value).runOn p = (.error e, p)) ∨
      ∃ signal index r bit, p.Reaches name signal index r ∧ signal.bit? direction = some bit := by
  have hget (rest : Part → PartAction Unit) : (get >>= rest).runOn p = (rest p).runOn p := runOn_bind_ok (runOn_get p) rest
  unfold setSignal
  rw [hget]
  cases hsignal : p.signal? name with
  | error e => exact .inl ⟨e, rfl⟩
  | ok signal =>
    cases hboundary : p.boundaryIndex? with
    | error e => exact .inl ⟨e, rfl⟩
    | ok index =>
      obtain ⟨r, hr, -⟩ := exists_of_boundaryIndex? hboundary
      cases direction with
      | input =>
        cases hbit : signal.input? with
        | none => exact .inl ⟨_, by simp [runOn_bind, hbit]; rfl⟩
        | some bit => exact .inr ⟨signal, index, r, bit, ⟨hsignal, hboundary, hr⟩, hbit⟩
      | output =>
        cases hbit : signal.output? with
        | none => exact .inl ⟨_, by simp [runOn_bind, hbit]; rfl⟩
        | some bit => exact .inr ⟨signal, index, r, bit, ⟨hsignal, hboundary, hr⟩, hbit⟩

/-- Set the control cell of a signal that is driven or released, if there is one. -/
def setControl (index : Nat) (control? : Option ControlCell) (direction : Direction) : PartAction Unit :=
  match control? with
  | none => pure ()
  | some control => setInputBit index control.bit (control.level direction)

namespace Reaches

variable {signal : Signal} {r : DataRegister} (h : p.Reaches name signal index r)
include h

theorem runOn_output (hbit : signal.output? = some bit) (value : Bool) :
    (setSignal name .output value).runOn p =
      if bit < r.input.length then
        match p.controlOf? signal with
        | none => (.ok (), p.loadBit index bit value)
        | some control =>
          if control.bit < r.input.length then
            (.ok (), (p.loadBit index bit value).loadBit index control.bit (control.level .output))
          else (.error (.bitOutOfRange control.bit r.input.length), p.loadBit index bit value)
      else (.error (.bitOutOfRange bit r.input.length), p) := by
  have hset := runOn_setInputBit h.register bit value
  have hrun : (setSignal name .output value).runOn p = (do
      setInputBit index bit value
      setControl index (p.controlOf? signal) .output : PartAction Unit).runOn p := by
    rw [setSignal, runOn_bind_ok (runOn_get p), h.signal, h.boundary, runOn_bind_ok (runOn_ofExcept _ _),
      runOn_bind_ok (runOn_ofExcept _ _), hbit]
    cases p.controlOf? signal <;> rfl
  rw [hrun]
  by_cases hlt : bit < r.input.length
  · rw [if_pos hlt] at hset ⊢
    rw [runOn_bind_ok hset]
    cases p.controlOf? signal with
    | none => rfl
    | some control =>
      refine (runOn_setInputBit (getElem?_loadBit h.register bit value) control.bit (control.level .output)).trans ?_
      rw [Register.length_write]
  · rw [if_neg hlt] at hset ⊢
    exact runOn_bind_error hset _

theorem runOn_input (hbit : signal.input? = some bit) (value : Bool) :
    (setSignal name .input value).runOn p =
      match p.controlOf? signal with
      | none => (.ok (), p)
      | some control =>
        if control.bit < r.input.length then (.ok (), p.loadBit index control.bit (control.level .input))
        else (.error (.bitOutOfRange control.bit r.input.length), p) := by
  have hrun : (setSignal name .input value).runOn p = (setControl index (p.controlOf? signal) .input).runOn p := by
    rw [setSignal, runOn_bind_ok (runOn_get p), h.signal, h.boundary, runOn_bind_ok (runOn_ofExcept _ _),
      runOn_bind_ok (runOn_ofExcept _ _), hbit]
    cases p.controlOf? signal <;> rfl
  rw [hrun]
  cases p.controlOf? signal with
  | none => rfl
  | some control => exact runOn_setInputBit h.register control.bit (control.level .input)

end Reaches

theorem atomic_setSignal_input (name : String) (value : Bool) : Atomic (setSignal name .input value) := by
  refine looks_get.bind fun p => (looks_ofExcept _).bind fun signal => (looks_ofExcept _).bind fun index => ?_
  refine Atomic.ite (atomic_throw_bind _ _) ?_
  cases p.controlOf? signal with
  | none => exact (looks_pure _).atomic
  | some control => exact atomic_setInputBit _ _ _

/-! ### Calls as data -/

/-- A call that defines a part or drives one of its signals. -/
inductive Call where
  | setInstructionLength (length : Nat)
  | addRegister (name : String) (length : Nat)
  | resizeRegister (name : String) (length : Nat)
  | addInstruction (name code : String) (register? : Option String)
  | addSignal (name : String) (pin? : Option String)
  | addAlias (other signal : String)
  | defineCell (bit : Nat) (type : CellType) (safe : Bool) (signal : String) (control? : Option ControlCell)
  | setSignal (name : String) (direction : Direction) (value : Bool)
deriving DecidableEq, Repr

/-- Make the call; the position of what it adds is not told. -/
def Call.act : Call → PartAction Unit
  | setInstructionLength length => Part.setInstructionLength length
  | addRegister name length => do let _ ← Part.addRegister name length
  | resizeRegister name length => Part.resizeRegister name length
  | addInstruction name code register? => do let _ ← Part.addInstruction name code register?
  | addSignal name pin? => do let _ ← Part.addSignal name pin?
  | addAlias other signal => Part.addAlias other signal
  | defineCell bit type safe signal control? => Part.defineCell bit type safe signal control?
  | setSignal name direction value => Part.setSignal name direction value

/-- Every call but one is atomic. -/
theorem Call.atomic {c : Call} (h : ∀ name value, c ≠ .setSignal name .output value) : Atomic c.act := by
  cases c with
  | setInstructionLength length => exact atomic_setInstructionLength length
  | addRegister name length => exact (atomic_addRegister name length).bind fun _ => succeeds_pure _
  | resizeRegister name length => exact atomic_resizeRegister name length
  | addInstruction name code register? =>
    exact (atomic_addInstruction name code register?).bind fun _ => succeeds_pure _
  | addSignal name pin? => exact (atomic_addSignal name pin?).bind fun _ => succeeds_pure _
  | addAlias other signal => exact atomic_addAlias other signal
  | defineCell bit type safe signal control? => exact atomic_defineCell type signal control?
  | setSignal name direction value =>
    cases direction with
    | input => exact atomic_setSignal_input name value
    | output => exact absurd rfl (h name value)

end Part
end Jtag
