import Jtag.Proofs.Part.Reachable

/-! Driving and releasing signals. The call changes what is shifted into the boundary scan register and nothing else:
    the cell of the signal, if it is driven, and its control cell. A cell that is its own control cell is written
    twice, so that only the value that turns it on stays. -/

namespace Jtag

namespace Part

open Jtag.Action

variable {p p' : Part} {signal : Signal} {direction : Direction} {name : String} {index bit : Nat} {value : Bool}
  {r : DataRegister}

/-- Replace what the register at a position shifts in. -/
def load (p : Part) (index : Nat) (input : Register) : Part := p.modifyRegister index fun r => { r with input }

theorem loadBit_eq (h : p.registers[index]? = some r) (bit : Nat) (value : Bool) :
    p.loadBit index bit value = p.load index (r.input.write bit value) := by
  unfold loadBit load modifyRegister
  rw [modify_congr fun a ha => ?_]
  rw [Option.some.inj (h.symm.trans ha)]

theorem load_self (h : p.registers[index]? = some r) : p.load index r.input = p := by
  unfold load modifyRegister
  rw [modify_congr (g := id) fun a ha => ?_, List.modify_id]
  rw [← Option.some.inj (h.symm.trans ha)]
  rfl

theorem load_load (p : Part) (index : Nat) (first second : Register) :
    (p.load index first).load index second = p.load index second := by
  unfold load modifyRegister
  rw [List.modify_modify_eq]
  rfl

theorem getElem?_load (h : p.registers[index]? = some r) (input : Register) :
    (p.load index input).registers[index]? = some { r with input } := by
  simp [load, modifyRegister, h]

/-- The part as it was, but for the cells of a signal that is driven or released. -/
structure Driven (p p' : Part) (signal : Signal) (direction : Direction) (value : Bool) (index : Nat)
    (r : DataRegister) (input : Register) : Prop where
  rest : p' = p.load index input
  length : input.length = r.input.length
  control : ∀ control ∈ p.controlOf? signal, input.get? control.bit = some (control.level direction)
  others : ∀ k, (direction = .output → signal.output? ≠ some k) → (∀ control ∈ p.controlOf? signal, control.bit ≠ k) →
    input.get? k = r.input.get? k
  /-- The cell has the value unless it is its own control cell, and the value is the one that turns it off. -/
  driven : direction = .output → ∃ bit, signal.output? = some bit ∧ (input.get? bit = some value ↔
    ∀ control ∈ p.controlOf? signal, control.bit = bit → value ≠ control.disableValue)

namespace Reaches

variable (h : p.Reaches name signal index r)
include h

theorem driven_output (hbit : signal.output? = some bit)
    (hrun : (setSignal name .output value).runOn p = (.ok (), p')) :
    ∃ input, p.Driven p' signal .output value index r input := by
  rw [h.runOn_output hbit] at hrun
  split at hrun
  · rename_i hlt
    have hlength := r.input.length_write bit value
    have hwritten := Register.get?_write hlt value
    have hother : ∀ {k}, (Direction.output = .output → signal.output? ≠ some k) → k ≠ bit := by
      rintro k hk rfl
      exact hk rfl hbit
    rw [loadBit_eq h.register] at hrun
    cases hcontrol : p.controlOf? signal with
    | none =>
      rw [hcontrol] at hrun
      cases hrun
      refine ⟨_, rfl, hlength, by simp [hcontrol], fun k hk _ => ?_, fun _ => ⟨bit, hbit, ?_⟩⟩
      · rw [hwritten, if_neg (hother hk)]
      · simp [hcontrol, hwritten]
    | some control =>
      rw [hcontrol] at hrun
      dsimp only at hrun
      split at hrun
      · rename_i hcontrolLt
        rw [loadBit_eq (getElem?_load h.register _), load_load] at hrun
        cases hrun
        have htwice := Register.get?_write (hlength.symm ▸ hcontrolLt) (control.level .output)
        refine ⟨_, rfl, (Register.length_write _ _ _).trans hlength, ?_, fun k hk hk' => ?_, fun _ => ⟨bit, hbit, ?_⟩⟩
        · simp [hcontrol, htwice]
        · rw [htwice, if_neg (Ne.symm (hk' control hcontrol)), hwritten, if_neg (hother hk)]
        · rw [htwice, hwritten, if_pos rfl, hcontrol]
          rcases eq_or_ne control.bit bit with hown | hne
          · simp [hown, ControlCell.level, Bool.eq_not, eq_comm]
          · simp [hne, hne.symm]
      · cases hrun
  · cases hrun

theorem driven_input (hbit : signal.input? = some bit) (hrun : (setSignal name .input value).runOn p = (.ok (), p')) :
    ∃ input, p.Driven p' signal .input value index r input := by
  rw [h.runOn_input hbit] at hrun
  cases hcontrol : p.controlOf? signal with
  | none =>
    rw [hcontrol] at hrun
    cases hrun
    refine ⟨r.input, (load_self h.register).symm, rfl, by simp [hcontrol], fun _ _ _ => rfl, nofun⟩
  | some control =>
    rw [hcontrol] at hrun
    dsimp only at hrun
    split at hrun
    · rename_i hlt
      rw [loadBit_eq h.register] at hrun
      cases hrun
      have hwritten := Register.get?_write hlt (control.level .input)
      refine ⟨_, rfl, r.input.length_write _ _, ?_, fun k _ hk => ?_, nofun⟩
      · simp [hcontrol, hwritten]
      · rw [hwritten, if_neg (Ne.symm (hk control hcontrol))]
    · cases hrun

end Reaches

/-- A call that succeeds drives or releases the signal that its name reaches, and changes nothing but its cells. The
    driven cell has the value, unless it is its own control cell and the value is the one that turns it off. -/
theorem setSignal_drives (h : (setSignal name direction value).runOn p = (.ok (), p')) :
    ∃ signal index r input, p.Reaches name signal index r ∧ p.Driven p' signal direction value index r input := by
  rcases setSignal_cases p name direction value with ⟨e, hrun⟩ | ⟨signal, index, r, bit, hreaches, hbit⟩
  · rw [hrun] at h
    cases h
  · refine ⟨signal, index, r, ?_⟩
    cases direction with
    | input =>
      obtain ⟨input, hdriven⟩ := hreaches.driven_input hbit h
      exact ⟨input, hreaches, hdriven⟩
    | output =>
      obtain ⟨input, hdriven⟩ := hreaches.driven_output hbit h
      exact ⟨input, hreaches, hdriven⟩

/-- A part with a pin that is driven by a cell with the given control cell. -/
def onePin (control : ControlCell) : Part :=
  (Part.new none).after
    [.addRegister "BSR" 4, .addSignal "A" none, .addAlias "B" "A", .defineCell 0 .output true "A" (some control)]

theorem setSignal_drives_onePin : ∃ p', (setSignal "B" .output false).runOn (onePin ⟨2, false⟩) = (.ok (), p') ∧
    ∃ signal index r input, (onePin ⟨2, false⟩).Reaches "B" signal index r ∧
      (onePin ⟨2, false⟩).Driven p' signal .output false index r input :=
  ⟨_, rfl, setSignal_drives rfl⟩

/-- The pin of a cell that is its own control cell cannot be given the value that turns it off. -/
theorem setSignal_own_control : ¬∀ p p' name value, Reachable false p →
    (setSignal name .output value).runOn p = (.ok (), p') → ∀ signal index r bit, p'.Reaches name signal index r →
      signal.output? = some bit → r.input.get? bit = some value := by
  intro h
  have hvalue := h (onePin ⟨0, true⟩) _ "A" true ((Reachable.new none).after _) rfl _ _ _ 0 ⟨rfl, rfl, rfl⟩ rfl
  exact absurd hvalue (by decide)

end Part
end Jtag
