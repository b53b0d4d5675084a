import Jtag.Proofs.Part.Reachable

/-! What a failed call leaves behind. The calls check before they write, so that a failure changes nothing, with one
    exception: driving a signal writes the cell of the signal before the place of its control cell is checked. The
    check only fails where the register that is shifted in was replaced by a shorter one. -/

namespace Jtag
namespace Part

open Jtag.Action

variable {p : Part} {c : Call} {e : PartError} {name : String} {index bit : Nat}

/-- The signal is driven by a cell of the boundary scan register, and its control cell lies behind the end of what is
    shifted into that register. -/
def Cut (p : Part) (name : String) (index bit : Nat) : Prop :=
  ∃ signal r control, p.Reaches name signal index r ∧ signal.output? = some bit ∧ p.controlOf? signal = some control ∧
    bit < r.input.length ∧ r.input.length ≤ control.bit

theorem Cut.runOn_output (h : p.Cut name index bit) (value : Bool) :
    ((setSignal name .output value).runOn p).2 = p.loadBit index bit value := by
  obtain ⟨signal, r, control, hreaches, hbit, hcontrol, hinside, houtside⟩ := h
  rw [hreaches.runOn_output hbit, if_pos hinside, hcontrol]
  dsimp only
  rw [if_neg (Nat.not_lt.mpr houtside)]

/-- All cells of a part in order are inside its boundary scan register. -/
theorem WellFormed.not_cut (h : p.WellFormed) : ¬p.Cut name index bit := by
  rintro ⟨signal, r, control, hreaches, hbit, hcontrol, -, houtside⟩
  obtain ⟨bit', hbit', hcell⟩ := Option.bind_eq_some_iff.mp hcontrol
  obtain ⟨cell, hcell, hcontrol⟩ := Option.bind_eq_some_iff.mp hcell
  have hlt := (h.cells bit' cell hcell).2.2 control hcontrol
  obtain ⟨r', hr', hname⟩ := exists_of_boundaryIndex? hreaches.boundary
  obtain rfl : r = r' := Option.some.inj (hreaches.register.symm.trans hr')
  rw [h.boundary r (List.mem_of_getElem? hr') hname] at hlt
  exact absurd hlt (Nat.not_lt.mpr houtside)

theorem setSignal_output_unchanged {value : Bool} (h : ((setSignal name .output value).runOn p).1 = .error e)
    (hcut : ∀ index bit, ¬p.Cut name index bit) : ((setSignal name .output value).runOn p).2 = p := by
  rcases setSignal_cases p name .output value with ⟨e', hrun⟩ | ⟨signal, index, r, bit, hreaches, hbit⟩
  · rw [hrun]
  · have hrun := hreaches.runOn_output hbit value
    by_cases hinside : bit < r.input.length
    · rw [if_pos hinside] at hrun
      cases hcontrol : p.controlOf? signal with
      | none =>
        rw [hrun, hcontrol] at h
        cases h
      | some control =>
        rw [hcontrol] at hrun
        by_cases hlt : control.bit < r.input.length
        · simp only [hrun, if_pos hlt] at h
          cases h
        · exact absurd ⟨signal, r, control, hreaches, hbit, hcontrol, hinside, Nat.not_lt.mp hlt⟩ (hcut index bit)
    · rw [hrun, if_neg hinside]

theorem failed_unchanged (h : (c.act.runOn p).1 = .error e)
    (hcut : ∀ name value index bit, c = .setSignal name .output value → ¬p.Cut name index bit) :
    (c.act.runOn p).2 = p := by
  by_cases hset : ∃ name value, c = .setSignal name .output value
  · obtain ⟨name, value, rfl⟩ := hset
    exact setSignal_output_unchanged h fun index bit => hcut name value index bit rfl
  · exact Call.atomic (fun name value heq => hset ⟨name, value, heq⟩) p e h

/-- A call that fails changes nothing, unless it drives a signal whose control cell is cut off; then the cell of the
    signal has its new value. In a part in order no control cell is cut off. -/
theorem failed_leaves (h : (c.act.runOn p).1 = .error e) :
    ((∀ name value index bit, c = .setSignal name .output value → ¬p.Cut name index bit) → (c.act.runOn p).2 = p) ∧
    (∀ name value index bit, c = .setSignal name .output value → p.Cut name index bit →
      (c.act.runOn p).2 = p.loadBit index bit value) ∧
    (Reachable false p → (c.act.runOn p).2 = p) := by
  refine ⟨failed_unchanged h, ?_, fun hreachable => failed_unchanged h fun _ _ _ _ _ => hreachable.wellFormed.not_cut⟩
  rintro name value index bit rfl hcut
  exact hcut.runOn_output value

/-- A part with a driven pin, the control cell of which is lost with the end of the register that is shifted in. -/
def shortened : Part :=
  ((Part.new none).after [.addRegister "BSR" 8, .addSignal "A" none,
    .defineCell 1 .output false "A" (some ⟨5, false⟩)]).setContents 0
      ⟨[false, false, false], by decide⟩ ⟨List.replicate 8 false, by decide⟩

theorem reachable_shortened : Reachable true shortened := .contents 0 _ _ ((Reachable.new none).after _) nofun

theorem failed_leaves_shortened :
    ((Call.setSignal "A" .output true).act.runOn shortened).1 = .error (.bitOutOfRange 5 3) ∧
    shortened.Cut "A" 0 1 ∧
    ((Call.setSignal "A" .output true).act.runOn shortened).2 = shortened.loadBit 0 1 true := by
  have hfails : ((Call.setSignal "A" .output true).act.runOn shortened).1 = .error (.bitOutOfRange 5 3) := by decide
  have hcut : shortened.Cut "A" 0 1 := ⟨_, _, _, ⟨rfl, rfl, rfl⟩, rfl, rfl, by decide, by decide⟩
  exact ⟨hfails, hcut, (failed_leaves hfails).2.1 _ _ _ _ rfl hcut⟩

/-- The pin of the shortened part is half driven by a call that fails. -/
theorem failed_half_driven : ¬∀ p c e, Reachable true p → (Call.act c |>.runOn p).1 = .error e →
    (Call.act c |>.runOn p).2 = p := by
  intro h
  have hkept := h shortened (.setSignal "A" .output true) (.bitOutOfRange 5 3) reachable_shortened (by decide)
  exact absurd hkept (by decide)

end Part
end Jtag
