import Jtag.Proofs.Part.Accepted

/-! The length of the instruction register of a part. An opcode has at least one bit, so a part that has
    instructions has an instruction register to hold them, and one of length zero cannot be given a bypass
    instruction, nor can one that is longer than any row. -/

namespace Jtag

namespace Part

/-- A part with instructions has an instruction register. -/
def Sized (p : Part) : Prop := p.instructions ≠ [] → 0 < p.instructionLength

theorem invariant_sized : Invariant Sized where
  length _ _ hfixed hp := fun hne => hfixed hne ▸ hp hne
  instruction _ _ hpos _ := fun _ => hpos
  registers _ _ _ hp := hp
  signals _ _ _ hp := hp
  active _ _ hp := hp

end Part

/-- No register of the part that is described, nor its opcodes, are longer than a row can be. -/
structure Description.Fits (d : Description) : Prop where
  instructionLength : d.instructionLength ≤ Word.rowLimit
  registers : ∀ r ∈ d.registers, r.length ≤ Word.rowLimit

def Database.Fits (database : Database) : Prop := ∀ entry ∈ database.entries, entry.definition.Fits

theorem Database.Fits.lookup? {database : Database} (h : database.Fits) {id : IdCode} {d : Description}
    (hlookup : database.lookup? id = some d) : d.Fits := by
  unfold Database.lookup? at hlookup
  dsimp only at hlookup
  split at hlookup
  · rename_i entry hentry
    cases hlookup
    exact h entry (List.mem_of_mem_filter (List.mem_of_find?_eq_some hentry))
  · obtain ⟨entry, hentry, rfl⟩ := Option.map_eq_some_iff.mp hlookup
    exact h entry (List.mem_of_mem_filter (List.mem_of_find?_eq_some hentry))

namespace Chain

open Jtag.Action Jtag.Part

/-- A part set up from a definition has an instruction register: it has at least a bypass instruction. -/
theorem definedPart?_length_pos {id : IdCode} {d : Description} {part : Part} (h : definedPart? id d = .ok part) :
    0 < part.instructionLength := by
  obtain ⟨hkept, t, hselect⟩ := definedPart?_ok_inv h
  have hsized : part.Sized := hkept Sized invariant_sized fun _ _ _ hne => absurd rfl hne
  obtain ⟨index, hindex, rfl⟩ := selectInstruction_ok_inv hselect
  obtain ⟨instruction, hsome, -⟩ := exists_of_instructionIndex? hindex
  exact hsized (List.ne_nil_of_mem (List.mem_of_getElem? hsome))

/-! ### Definitions that a row can hold -/

theorem overlong?_eq_none {registers : List RegisterEntry} (h : ∀ r ∈ registers, r.length ≤ Word.rowLimit)
    (taken : List String) : overlong? taken registers = none := by
  induction registers generalizing taken with
  | nil => rfl
  | cons r rest ih =>
    obtain ⟨hfirst, hrest⟩ := List.forall_mem_cons.mp h
    rw [overlong?, if_neg (Nat.not_lt_of_le hfirst), ih hrest, ite_self]

/-- A definition that can be held fails for a reason of its own, if it fails. -/
theorem definedPart?_error {id : IdCode} {d : Description} {e : Error} (hfits : d.Fits)
    (h : definedPart? id d = .error e) : ∃ cause, e = .part cause := by
  unfold definedPart? at h
  rw [overlong?_eq_none hfits.registers] at h
  cases hdefine : ofDescription? (some id) d with
  | error cause =>
    simp only [bind, Except.bind, Except.mapError, hdefine] at h
    cases h
    exact ⟨cause, rfl⟩
  | ok p =>
    have hrow : p.instructionLength ≤ Word.rowLimit :=
      (ofDescription?_sound hdefine).2.2.instructionLength ▸ hfits.instructionLength
    have hadd : FailsOnly (fun e => ∃ cause, e = Error.part cause) (addBypass p.instructionLength) := by
      rw [addBypass, onesCode, if_neg (Nat.not_lt_of_le hrow)]
      exact failsOnly_mapError _ _
    have hensure : ∀ e, (ensureBypass.runOn p).1 = .error e → ∃ cause, e = Error.part cause := by
      rw [ensureBypass, runOn_bind_ok (runOn_get p)]
      exact FailsOnly.ite (FailsOnly.ite (FailsOnly.bind (failsOnly_mapError _ _) fun _ => hadd) hadd)
        (failsOnly_mapError _ _) p
    rcases hrun : ensureBypass.runOn p with ⟨e' | _, p'⟩ <;>
      simp only [bind, Except.bind, Except.mapError, hdefine, hrun] at h <;> cases h
    exact hensure e (congrArg Prod.fst hrun)

theorem onesCode_eq_ok {length : Nat} (h : length ≤ Word.rowLimit) :
    onesCode length = .ok (Bits.text (List.replicate length true)) := by
  rw [onesCode, if_neg (Nat.not_lt_of_le h)]
  simp [Bits.text, Bits.digit]

/-- What the addition of bypass to a part without instructions comes to, by the length of its instruction
    register. -/
inductive BypassAdded (length : Nat) : Except Error Unit → Prop
  | zero (h : length = 0) : BypassAdded length (.error (.part (.register .invalidLength)))
  | overlong (h : Word.rowLimit < length) : BypassAdded length (.error (.overlong length))
  | done (hpos : 0 < length) (hrow : length ≤ Word.rowLimit) : BypassAdded length (.ok ())

theorem addBypass_run {p : Part} (hinstructions : p.instructions = []) (hregister : bypass ∈ p.registers.map (·.name)) :
    ∃ answer p', (addBypass p.instructionLength).runOn p = (answer, p') ∧ BypassAdded p.instructionLength answer ∧
      p'.instructionLength = p.instructionLength := by
  by_cases hlong : Word.rowLimit < p.instructionLength
  · refine ⟨_, p, ?_, .overlong hlong, rfl⟩
    rw [addBypass, onesCode, if_pos hlong]
    rfl
  have hrow : p.instructionLength ≤ Word.rowLimit := Nat.le_of_not_lt hlong
  rw [addBypass, onesCode_eq_ok hrow, runOn_bind_ok (runOn_ofExcept _ p), runOn_mapError]
  rcases Nat.eq_zero_or_pos p.instructionLength with hzero | hpos
  · have hfails : (addInstruction bypass (Bits.text (List.replicate p.instructionLength true)) (some bypass)).runOn p =
        (.error (.register .invalidLength), p) := by
      rw [addInstruction, runOn_bind_ok (runOn_get p), instructionIndex?, hinstructions,
        if_neg (not_not_intro (by rw [Bits.utf8ByteSize_text, List.length_replicate])), hzero]
      rfl
    rw [runOn_bind_error hfails]
    exact ⟨_, p, rfl, .zero hzero, rfl⟩
  · have hne : List.replicate p.instructionLength true ≠ [] := List.ne_nil_of_length_pos (by rwa [List.length_replicate])
    obtain ⟨index, hindex⟩ := exists_registerIndex?_iff.mpr hregister
    have hadd : (addInstruction bypass (Bits.text (List.replicate p.instructionLength true)) (some bypass)).runOn p =
        (.ok 0, { p with instructions := [selecting bypass ⟨_, hne⟩ (some index)] }) := by
      refine addInstruction_eq_ok.mpr ⟨by simp [hinstructions], ⟨_, hne⟩, some index, rfl, ?_, ?_, ?_, ?_⟩
      · exact List.length_replicate
      · rw [selection?, hindex]
        rfl
      · rw [hinstructions]
        rfl
      · rw [hinstructions]
        rfl
    rw [runOn_bind_ok hadd]
    exact ⟨_, _, rfl, .done hpos hrow, rfl⟩

/-- A length and a bypass register, for a part that has no such register and no instructions yet. -/
theorem prepareBypass_run {p : Part} (hinstructions : p.instructions = []) (hfree : bypass ∉ p.registers.map (·.name))
    (length : Nat) :
    ∃ p', (do
      Part.setInstructionLength length
      let _ ← addRegister bypass 1 : PartAction Unit).runOn p = (.ok (), p') ∧ p'.instructionLength = length ∧
      p'.instructions = [] ∧ bypass ∈ p'.registers.map (·.name) := by
  obtain ⟨register, hname, hadd⟩ := addRegister_ok (p := { p with instructionLength := length }) hfree Nat.one_pos
  have hset : (Part.setInstructionLength length).runOn p = (.ok (), { p with instructionLength := length }) :=
    setInstructionLength_eq_ok.mpr ⟨fun hne => absurd hinstructions hne, rfl⟩
  refine ⟨_, (runOn_bind_ok hset _).trans (runOn_bind_ok hadd _), ?_, ?_, ?_⟩
  · simp
  · simp [hinstructions]
  · simp [hname]

/-- A part of which only the length is known gets that length and bypass, if there can be a bypass instruction. -/
theorem defineGeneric_run {p : Part} (hinstructions : p.instructions = []) (hregisters : p.registers = [])
    (hasCode : Bool) (length : Nat) :
    ∃ answer p', (defineGeneric hasCode length).runOn p = (answer, p') ∧ BypassAdded length answer ∧
      p'.instructionLength = length := by
  obtain ⟨q, hq, hlength, hnone, hbypass⟩ : ∃ q, (do
      if hasCode then
        let _ ← addRegister dir IdCode.length
      Part.setInstructionLength length
      let _ ← addRegister bypass 1 : PartAction Unit).runOn p = (.ok (), q) ∧ q.instructionLength = length ∧
      q.instructions = [] ∧ bypass ∈ q.registers.map (·.name) := by
    cases hasCode with
    | false => exact prepareBypass_run hinstructions (by simp [hregisters]) length
    | true =>
      have hcode : 0 < IdCode.length := by decide
      have hother : bypass ≠ dir := by decide
      have hnew : dir ∉ p.registers.map (·.name) := by simp [hregisters]
      obtain ⟨register, hname, hadd⟩ := addRegister_ok hnew hcode
      generalize hq₀ : Part.prepareRegister _ dir _ IdCode.length = q₀ at hadd
      have hfree : bypass ∉ q₀.registers.map (·.name) := by simp [← hq₀, hregisters, hname, hother]
      obtain ⟨q, hq, hfacts⟩ := prepareBypass_run (by simp [← hq₀, hinstructions]) hfree length
      exact ⟨q, (runOn_bind_ok hadd _).trans hq, hfacts⟩
  obtain ⟨answer, p', hrun, hadded, hkept⟩ := addBypass_run hnone hbypass
  rw [hlength] at hrun hadded hkept
  exact ⟨answer, p', (runOn_bind_ok (runOn_mapError_eq_ok.mpr hq) _).trans hrun, hadded, hkept⟩

/-- The length that a scan found becomes the length of the part. Of no bits, or of more than a row has, there is
    none. -/
theorem genericPart?_run (names : Manufacturers) (found : Found) :
    ∃ answer, BypassAdded found.irLength answer ∧
      ((∃ e, answer = .error e ∧ genericPart? names found = .error e) ∨
        answer = .ok () ∧ ∃ part, genericPart? names found = .ok part ∧ part.instructionLength = found.irLength) := by
  obtain ⟨p, hinstructions, hregisters, heq⟩ : ∃ p : Part, p.instructions = [] ∧ p.registers = [] ∧
      ∀ answer p', (defineGeneric found.idCode?.isSome found.irLength).runOn p = (answer, p') →
        genericPart? names found = answer.map fun _ => p' := by
    unfold genericPart?
    cases found.idCode? with
    | none => exact ⟨Part.new none, rfl, rfl, fun answer p' hrun => by dsimp only; rw [hrun]; cases answer <;> rfl⟩
    | some id =>
      exact ⟨identify names id (Part.new (some id)), rfl, rfl, fun answer p' hrun => by
        dsimp only; rw [hrun]; cases answer <;> rfl⟩
  obtain ⟨answer, p', hrun, hadded, hlength⟩ :=
    defineGeneric_run hinstructions hregisters found.idCode?.isSome found.irLength
  rw [heq answer p' hrun]
  refine ⟨answer, hadded, ?_⟩
  cases answer with
  | error e => exact .inl ⟨e, rfl, rfl⟩
  | ok _ => exact .inr ⟨rfl, p', rfl, hlength⟩

end Chain
end Jtag
